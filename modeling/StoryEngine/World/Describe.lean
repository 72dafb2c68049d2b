import StoryEngine.World.Observe

/-!
# Descriptions

A description shows an object with its kind and its parts, as an author reads it when looking for a
fault.

* `Description` — a name, a text, a list, or a kind with named parts or plain parts.
* `Description.render` — its text.
* `World.describe` — the description of an object.
-/

namespace StoryEngine

/-- **A description.** -/
inductive Description where
  /-- something that speaks for itself -/
  | word (text : String)
  /-- a kind with named parts, in braces -/
  | record (kind : String) (parts : List (String × Description))
  /-- a kind with parts in order, in parentheses -/
  | tuple (kind : String) (parts : List Description)
  /-- parts in brackets -/
  | list (parts : List Description)
  /-- pairs in braces -/
  | pairs (parts : List (String × Description))

namespace Description

/-- Texts with a comma and a blank between them. -/
def commas : List String → String
  | [] => ""
  | [s] => s
  | s :: rest => s ++ ", " ++ commas rest

mutual

/-- **The text of a description.** -/
def render : Description → String
  | .word text => text
  | .record kind parts => kind ++ " \x7b " ++ commas (renderFields parts) ++ " \x7d"
  | .tuple kind parts => kind ++ "(" ++ commas (renderAll parts) ++ ")"
  | .list parts => "[" ++ commas (renderAll parts) ++ "]"
  | .pairs parts => "\x7b" ++ commas (renderFields parts) ++ "\x7d"

/-- The texts of several descriptions. -/
def renderAll : List Description → List String
  | [] => []
  | d :: rest => d.render :: renderAll rest

/-- The texts of several named descriptions. -/
def renderFields : List (String × Description) → List String
  | [] => []
  | (name, d) :: rest => (name ++ ": " ++ d.render) :: renderFields rest

end

/-- A truth value. -/
def truth (b : Bool) : Description :=
  .word (if b then "true" else "false")

/-- A number of things. -/
def count (n : Nat) : Description :=
  .word (toString n)

/-- A text in quotes. -/
def quoted (s : String) : Description :=
  .word (Text.Quoted.text s)

end Description

open Description (truth count quoted)

/-- The description of a condition. -/
def Condition.description : Condition → Description
  | .literal v => .tuple "Literal" [.word v.literal]
  | .quality name => .tuple "Variable" [quoted name]
  | .not c => .tuple "Not" [c.description]
  | .and a b => .tuple "And" [a.description, b.description]
  | .or a b => .tuple "Or" [a.description, b.description]
  | .compare op a b => .tuple "Compare" [.word op.name, a.description, b.description]

/-- The description of what is wrong with a condition. -/
def ConditionError.description : ConditionError → Description
  | .empty => .word "Empty"
  | .unexpectedCharacter c position =>
    .record "UnexpectedCharacter"
      [("ch", .word (Text.Quoted.character c)), ("position", count position)]
  | .invalidToken text position =>
    .record "InvalidToken" [("text", quoted text), ("position", count position)]
  | .unexpectedToken found position =>
    .record "UnexpectedToken" [("found", quoted found), ("position", count position)]
  | .unexpectedEnd => .word "UnexpectedEnd"
  | .tooDeep limit => .record "TooDeep" [("limit", count limit)]

/-- The description of an expression that is no node. -/
def Expression.description (e : Expression) : Description :=
  .record "Expression"
    [("source", quoted e.source),
     ("compiled", match e.compiled with
      | .ok c => .tuple "Ok" [c.description]
      | .error fault => .tuple "Err" [fault.description])]

/-- The name of what can be seen of a cache, in a description. -/
def Cache.Status.description : Cache.Status → Description
  | .unbound => .word "Unbound"
  | .dirty => .word "Dirty"
  | .valid => .word "Valid"

namespace World

/-- The description of what is held on to. -/
def describeHandle (w : World) : Handle → Description
  | .state s =>
    .record "State"
      [("values", .pairs ((w.store s).contents.sorted.map fun (key, v) =>
          (Text.Quoted.text key, .word v.literal))),
       ("revision", count (w.store s).revision),
       ("listeners", count (w.listenerCount (.state s)))]
  | .expr e =>
    .record NodeKind.expression.name
      [("condition", quoted (w.expr e).expression.source),
       ("cache", (w.exprStatus e).description),
       ("listeners", count (w.listenerCount (.expr e)))]
  | .set q =>
    .record NodeKind.qualitySet.name
      [("conditions", .list ((w.conditions q).map quoted)),
       ("cache", (w.setStatus q).description),
       ("listeners", count (w.listenerCount (.set q)))]
  | .card c =>
    .record NodeKind.card.name
      [("hash", .tuple "CardHash" [.word (w.card c).hash.text]),
       ("content", quoted (w.card c).content),
       ("qualities", .list ((w.cardConditions c).map quoted)),
       ("bound", truth (w.isBound (.card c)))]
  | .deck d =>
    .record NodeKind.deck.name
      [("cards", count (w.deck d).cards.length),
       ("bound", truth (w.isBound (.deck d))),
       ("listeners", count (w.listenerCount (.deck d)))]
  | .board b =>
    .record "ListenerSet"
      [("label", quoted (Emitter.board b).label),
       ("listeners", count (w.listenerCount (.board b)))]
  | .batch s => .record "BatchScope" [("depth", count (w.store s).openBatches)]

/-- **The description of an object.** -/
def describe (w : World) : Object → Description
  | .handle h => w.describeHandle h
  | .weak s => .record "WeakState" [("alive", truth (w.weakAlive s))]
  | .plain e => e.description
  | .subscription _ => .record "Subscription" [("active", truth true)]

end World

end StoryEngine
