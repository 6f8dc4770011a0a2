/-!
# FileName — the parts of a path

- `components`: the parts between slashes, without empty ones and single dots.
- `lastName?`: the name of a file.
- `stem`, `extension?`: what stands before and after the last dot of a name.
- `join`: a name below a directory.
-/

namespace ClusterCodec
namespace FileName

/-- The parts of a path, without empty ones and single dots. -/
def components (path : String) : List String :=
  ((path.toList.splitOn '/').map String.ofList).filter fun part => part != "" && part != "."

/-- The last part, unless it leads upwards. -/
def lastName? (path : String) : Option String :=
  (components path).getLast?.filter (· != "..")

/-- A name cut at its last dot. A name without a dot, or with one at its front only, has no
extension. -/
def cutAtDot (name : List Char) : List Char × Option (List Char) :=
  match name.reverse.dropWhile (· != '.') with
  -- At least one character stands before the dot.
  | '.' :: c :: before => ((c :: before).reverse, some (name.reverse.takeWhile (· != '.')).reverse)
  | _ => (name, none)

/-- The last part of a path without its extension. A path without a last part is its own stem. -/
def stem (path : String) : String :=
  match lastName? path with
  | some name => String.ofList (cutAtDot name.toList).1
  | none => path

def extension? (path : String) : Option String :=
  (lastName? path).bind fun name => (cutAtDot name.toList).2.map String.ofList

def join (directory name : String) : String :=
  if "/".toList.isSuffixOf directory.toList then directory ++ name else directory ++ "/" ++ name

end FileName
end ClusterCodec
