import ClusterCodec.Xml.Fault
import ClusterCodec.Xml.Tag

/-!
# Event — a document as a sequence of tags

- `Event`: a start tag, an empty element, an end tag, or anything else.
- `nextEvent`: what begins at a place in the text.
- `Stream.ofText`: all events up to the end of the text or the first fault.

End tags are matched against the start tags that are still open. Text, comments, instructions,
declarations, character data and references are events without content.
-/

namespace ClusterCodec
namespace Xml

open Text

inductive Event where
  | start (tag : Tag)
  | empty (tag : Tag)
  | close
  | other
  deriving Repr, DecidableEq

/-- The result of one step over a text of `size` characters. -/
inductive Step (size : Nat) where
  | finished
  | fault (fault : Fault)
  /-- An event, the names of the open elements after it, innermost first, and the rest. -/
  | event (event : Event) (opened : List (List Char)) (rest : { r : List Char // r.length < size })

/-! ## Tags -/

/-- The text of a tag up to the first `>` outside quotes, and the rest. -/
def tagContent (quote : Option Char) : List Char → Except Fault (List Char × List Char)
  | [] => .error (match quote with
    | none => .unclosedTag
    | some q => .unclosedQuote q)
  | c :: cs =>
    match quote with
    | none =>
      if c = '>' then .ok ([], cs)
      else (tagContent (if isQuote c then some c else none) cs).map fun (t, r) => (c :: t, r)
    | some q => (tagContent (if c = q then none else some q) cs).map fun (t, r) => (c :: t, r)

theorem tagContent_shorter {quote : Option Char} {cs content rest : List Char}
    (h : tagContent quote cs = .ok (content, rest)) : rest.length < cs.length := by
  induction cs generalizing quote content with
  | nil => simp [tagContent] at h
  | cons c cs ih =>
    have inner : ∀ {q : Option Char},
        (tagContent q cs).map (fun (t, r) => (c :: t, r)) = .ok (content, rest) →
          rest.length < (c :: cs).length := by
      intro q hq
      cases hc : tagContent q cs with
      | error e => simp [hc, Except.map] at hq
      | ok p =>
        simp only [hc, Except.map, Except.ok.injEq, Prod.mk.injEq] at hq
        have : tagContent q cs = .ok (p.1, rest) := by rw [hc, ← hq.2]
        have := ih this
        simp only [List.length_cons]
        omega
    unfold tagContent at h
    cases quote with
    | none =>
      simp only at h
      split at h
      · simp only [Except.ok.injEq, Prod.mk.injEq] at h
        simp [← h.2]
      · exact inner h
    | some q => exact inner h

/-- A start tag or, if its text ends in a slash, an empty element. -/
def elementEvent (opened : List (List Char)) (content : List Char) : Event × List (List Char) :=
  if content.getLast? = some '/' then (.empty (.ofContent content.dropLast), opened)
  else (.start (.ofContent content), content.takeWhile (!isSpace ·) :: opened)

/-- The name of an end tag: blanks at its end do not count, unless there is nothing else. -/
def endName (content : List Char) : List Char :=
  if content.all isSpace then content else (content.reverse.dropWhile isSpace).reverse

def elementStep (opened : List (List Char)) (cs : List Char) : Step (cs.length + 1) :=
  match h : tagContent none cs with
  | .error fault => .fault fault
  | .ok (content, rest) =>
    have := tagContent_shorter h
    let (event, opened') := elementEvent opened content
    .event event opened' ⟨rest, by omega⟩

def endStep (opened : List (List Char)) (cs : List Char) : Step (cs.length + 1) :=
  match h : tagContent none cs with
  | .error fault => .fault fault
  | .ok (content, rest) =>
    have := tagContent_shorter h
    let name := endName content
    match opened with
    | [] => .fault (.unmatchedEnd (String.ofList name))
    | expected :: outer =>
      if name = expected then .event .close outer ⟨rest, by omega⟩
      else .fault (.mismatchedEnd (String.ofList expected) (String.ofList name))

/-! ## Comments, character data, instructions and references -/

/-- Passes a construct that ends with `mark`. -/
def otherStep (opened : List (List Char)) (mark : List Char) (nonempty : mark ≠ []) (fault : Fault)
    (cs : List Char) : Step (cs.length + 1) :=
  match h : after? mark cs with
  | none => .fault fault
  | some rest => .event .other opened ⟨rest, Nat.lt_succ_of_lt (after?_shorter nonempty h)⟩

def commentStep (opened : List (List Char)) (cs : List Char) : Step (cs.length + 1) :=
  match cs with
  -- The end mark shares no dash with the beginning.
  | '-' :: rest =>
    match otherStep opened ['-', '-', '>'] (by simp) .unclosedComment rest with
    | .finished => .finished
    | .fault fault => .fault fault
    | .event e o r => .event e o ⟨r.1, by have := r.2; simp only [List.length_cons]; omega⟩
  | _ => .fault .unclosedComment

def characterDataStep (opened : List (List Char)) (cs : List Char) : Step (cs.length + 1) :=
  if ['C', 'D', 'A', 'T', 'A', '['].isPrefixOf cs then
    otherStep opened [']', ']', '>'] (by simp) .unclosedCharacterData cs
  else .fault .unclosedCharacterData

/-- An instruction that does not end is an XML declaration if its target is `xml`, which white
space, a question mark or the end of the text may follow. -/
def unclosedTarget (cs : List Char) : Fault :=
  match cs with
  | 'x' :: 'm' :: 'l' :: rest =>
    if rest.head?.all (fun c => isSpace c || c == '?') then .unclosedDeclaration
    else .unclosedInstruction
  | _ => .unclosedInstruction

def instructionStep (opened : List (List Char)) (cs : List Char) : Step (cs.length + 1) :=
  -- The question mark that begins an instruction cannot end it too.
  if cs.head? = some '>' then .fault .unclosedInstruction
  else otherStep opened ['?', '>'] (by simp) (unclosedTarget cs) cs

def referenceStep (opened : List (List Char)) (cs : List Char) : Step (cs.length + 1) :=
  match h : cs.dropWhile (fun c => c != ';' && c != '&' && c != '<') with
  -- What the reference stands for does not matter outside attribute values.
  | ';' :: rest => .event .other opened ⟨rest, Nat.lt_succ_of_lt (length_lt_of_dropWhile_eq h)⟩
  | _ => .fault .unclosedReference

/-! ## Document type declarations -/

/-- The declarations whose texts in quotes may hold a `>`. -/
def quotingDeclarations : List (List Char) :=
  ["!ENTITY".toList, "!ATTLIST".toList, "!NOTATION".toList]

/-- What follows a piece of markup of the internal subset, given without its `<`. -/
def afterMarkup? (cs : List Char) : Option (List Char) :=
  match cs with
  | '!' :: '-' :: '-' :: rest => after? ['-', '-', '>'] rest
  | '?' :: rest => after? ['?', '>'] rest
  | cs =>
    if quotingDeclarations.any (·.isPrefixOf cs) then (tagContent none cs).toOption.map Prod.snd
    -- In any other markup a quote is plain text.
    else after? ['>'] cs

theorem afterMarkup?_shorter {cs rest : List Char} (h : afterMarkup? cs = some rest) :
    rest.length < cs.length := by
  unfold afterMarkup? at h
  split at h
  · have := after?_shorter (by simp) h
    simp only [List.length_cons]
    omega
  · have := after?_shorter (by simp) h
    simp only [List.length_cons]
    omega
  · split at h
    · cases hc : tagContent none cs with
      | error e => simp [hc, Except.toOption] at h
      | ok p =>
        simp only [hc, Except.toOption, Option.map_some, Option.some.injEq] at h
        exact tagContent_shorter (hc.trans (by rw [← h]))
    · exact after?_shorter (by simp) h

/-- What follows the bracket that ends the internal subset. -/
def subsetRest? (cs : List Char) : Option (List Char) :=
  match _found : cs.dropWhile (fun c => c != ']' && c != '<') with
  | ']' :: rest => some rest
  | '<' :: markup =>
    match _passed : afterMarkup? markup with
    | some rest => subsetRest? rest
    | none => none
  | _ => none
termination_by cs.length
decreasing_by
  have := length_dropWhile_le (fun c => c != ']' && c != '<') cs
  rw [_found] at this
  have := afterMarkup?_shorter _passed
  simp only [List.length_cons] at *
  omega

theorem subsetRest?_shorter {cs rest : List Char} (h : subsetRest? cs = some rest) :
    rest.length < cs.length := by
  fun_induction subsetRest? cs with
  | case1 cs r found =>
    have := length_dropWhile_le (fun c => c != ']' && c != '<') cs
    simp only [Option.some.injEq] at h
    simp only [found, List.length_cons, h] at this
    omega
  | case2 cs markup found r passed ih =>
    have := length_dropWhile_le (fun c => c != ']' && c != '<') cs
    have := afterMarkup?_shorter passed
    have := ih h
    simp only [found, List.length_cons] at *
    omega
  | case3 => simp at h
  | case4 => simp at h

/-- What follows the `>` that ends a document type declaration. A `>` or a bracket in quotes counts
for nothing before the internal subset; after the subset quotes are plain text. -/
def doctypeRest? (quote : Option Char) : List Char → Option (List Char)
  | [] => none
  | c :: cs =>
    match quote with
    | none =>
      if c = '>' then some cs
      else if c = '[' then (subsetRest? cs).bind (after? ['>'])
      else doctypeRest? (if isQuote c then some c else none) cs
    | some q => doctypeRest? (if c = q then none else some q) cs

theorem doctypeRest?_shorter {quote : Option Char} {cs rest : List Char}
    (h : doctypeRest? quote cs = some rest) : rest.length < cs.length := by
  induction cs generalizing quote with
  | nil => simp [doctypeRest?] at h
  | cons c cs ih =>
    simp only [List.length_cons]
    unfold doctypeRest? at h
    cases quote with
    | some q =>
      have := ih h
      omega
    | none =>
      simp only at h
      split at h
      · simp only [Option.some.injEq] at h
        simp [← h]
      · split at h
        · obtain ⟨inner, hs, ha⟩ := Option.bind_eq_some_iff.1 h
          have := subsetRest?_shorter hs
          have := after?_shorter (by simp) ha
          omega
        · have := ih h
          omega

/-- The keyword in any letter case, then a name. -/
def doctypeStep (opened : List (List Char)) (cs : List Char) : Step (cs.length + 1) :=
  match h : doctypeRest? none cs with
  | none => .fault .unclosedDoctype
  | some rest =>
    have := doctypeRest?_shorter h
    -- The end is found before the keyword is looked at.
    let content := cs.take (cs.length - rest.length - 1)
    if (content.take 7).map Char.toUpper != ['D', 'O', 'C', 'T', 'Y', 'P', 'E'] then
      .fault .unclosedDoctype
    else if (content.drop 7).all isSpace then .fault .missingDoctypeName
    else .event .other opened ⟨rest, by omega⟩

/-! ## The sequence of events -/

def markupStep (opened : List (List Char)) (cs : List Char) : Step (cs.length + 1) :=
  let grow {m n : Nat} (bound : m ≤ n) : Step m → Step n
    | .finished => .finished
    | .fault fault => .fault fault
    | .event e o r => .event e o ⟨r.1, by have := r.2; omega⟩
  match cs with
  | [] => .fault .unclosedTag
  | '/' :: rest => grow (by simp) (endStep opened rest)
  | '?' :: rest => grow (by simp) (instructionStep opened rest)
  | '!' :: '-' :: rest => grow (by simp) (commentStep opened rest)
  | '!' :: '[' :: rest => grow (by simp) (characterDataStep opened rest)
  | '!' :: rest =>
    if rest.head? = some 'D' ∨ rest.head? = some 'd' then grow (by simp) (doctypeStep opened rest)
    else .fault .unknownMarkup
  | cs => elementStep opened cs

/-- What begins at the start of a text. -/
def nextEvent (opened : List (List Char)) (cs : List Char) : Step cs.length :=
  match cs with
  | [] => .finished
  | '<' :: rest => markupStep opened rest
  | '&' :: rest => referenceStep opened rest
  | c :: rest => .event .other opened ⟨rest.dropWhile (fun d => d != '<' && d != '&'), by
      have := length_dropWhile_le (fun d => d != '<' && d != '&') rest
      simp only [List.length_cons]
      omega⟩

/-- The events of a text up to its end or to the first fault. -/
structure Stream where
  events : List Event
  fault : Option Fault
  deriving Repr, DecidableEq

def Stream.from (opened : List (List Char)) (cs : List Char) : Stream :=
  match nextEvent opened cs with
  | .finished => ⟨[], none⟩
  | .fault fault => ⟨[], some fault⟩
  | .event event opened' rest =>
    let following := Stream.from opened' rest.1
    ⟨event :: following.events, following.fault⟩
termination_by cs.length
decreasing_by exact rest.2

def Stream.ofText (text : String) : Stream :=
  Stream.from [] text.toList

end Xml
end ClusterCodec
