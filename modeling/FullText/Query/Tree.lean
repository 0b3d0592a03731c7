import FullText.Query.Value

namespace FullText

inductive ParenMode
  | always
  | never
  | default
deriving DecidableEq

def ParenMode.wraps (mode : ParenMode) (n : Nat) : Bool :=
  match mode with
  | always => true
  | never => false
  | default => 1 < n

inductive GroupKind
  | intersect
  | union
  | disjunct
  | disjunctUnion
  | optional
deriving DecidableEq

namespace GroupKind

def join : GroupKind → String
  | intersect | disjunct | optional => " "
  | union | disjunctUnion => "|"

def sign : GroupKind → Option String
  | disjunct | disjunctUnion => some "-"
  | optional => some "~"
  | intersect | union => none

end GroupKind

def wrap (parens : Bool) (text : String) : String := if parens then "(" ++ text ++ ")" else text

structure Clause where
  field : String
  values : List Value
  join : String
deriving DecidableEq

namespace Clause

def fieldText (c : Clause) : String := "@" ++ c.field ++ ":"

/-- The values share the field if the first may; a value alone always can. -/
def isGrouped (c : Clause) : Bool :=
  c.values.length = 1 || (c.values.head?.map Value.isCombinable).getD true

def render (c : Clause) (mode : ParenMode) : String :=
  let parens := 1 < c.values.length || mode = .always
  let texts := c.values.map Value.text
  if c.isGrouped then c.fieldText ++ wrap parens (c.join.intercalate texts)
  else wrap parens (c.join.intercalate (texts.map (c.fieldText ++ ·)))

end Clause

inductive Node
  | leaf (clause : Clause)
  | group (kind : GroupKind) (children : List Node)

namespace Node

mutual

/-- The clauses that the node adds to a group in which it is rendered bare. -/
def clauses : Node → Nat
  | leaf _ => 1
  | group kind children => if kind.sign.isSome then 1 else clausesIn children

def clausesIn : List Node → Nat
  | [] => 0
  | n :: ns => n.clauses + clausesIn ns

end

mutual

def render : Node → ParenMode → String
  | leaf clause, mode => clause.render mode
  | group kind children, mode =>
    match kind.sign with
    | none => wrap (mode.wraps children.length) (kind.join.intercalate (renderAll children mode))
    | some sign =>
      sign ++ wrap (mode.wraps children.length || 1 < clausesIn children)
        (kind.join.intercalate (renderAll children .never))

def renderAll : List Node → ParenMode → List String
  | [], _ => []
  | n :: ns, mode => n.render mode :: renderAll ns mode

end

def text (n : Node) : String := n.render .default

end Node

/-- A clause of the group's own: its values are joined as the group's children are. -/
def GroupKind.clause (kind : GroupKind) (field : String) (values : List Value) : Node :=
  .leaf ⟨field, values, kind.join⟩

end FullText
