import ClusterCodec.Xml.Event

/-!
# Document — the tree of a document

- `Node`: an element with its body, or anything else.
- `Node.events`, `eventsOf`: the events that deliver a tree.
- `Node.tags`, `tagsOf`: the tags in a tree.
- `elementsOf`: the elements among the nodes of a body.
-/

namespace ClusterCodec
namespace Xml

/-- An element without a body was written as an empty element. -/
inductive Node where
  | element (tag : Tag) (body : Option (List Node))
  | other

mutual

/-- The events that deliver a node. -/
def Node.events : Node → List Event
  | .other => [.other]
  | .element tag none => [.empty tag]
  | .element tag (some body) => .start tag :: (eventsOf body ++ [.close])

/-- The events that deliver some nodes, one after the other. -/
def eventsOf : List Node → List Event
  | [] => []
  | node :: nodes => node.events ++ eventsOf nodes

end

mutual

/-- The tags of a node and of everything inside it. -/
def Node.tags : Node → List Tag
  | .other => []
  | .element tag none => [tag]
  | .element tag (some body) => tag :: tagsOf body

def tagsOf : List Node → List Tag
  | [] => []
  | node :: nodes => node.tags ++ tagsOf nodes

end

/-- An element: its tag, and its body if it has one. -/
abbrev Element : Type := Tag × Option (List Node)

/-- The elements among the nodes of a body. -/
def elementsOf (nodes : List Node) : List Element :=
  nodes.filterMap fun
    | .element tag body => some (tag, body)
    | .other => none

end Xml
end ClusterCodec
