import StoryEngine.Value

/-!
# Scripts

A script is a list of steps on named objects.  Listeners run scripts too, and so do batches, so
steps nest.

* `PanicMessage` — what a step that breaks off carries.
* `StateAct`, `BoardAct`, `PlainAct`, `NodeAct`, `ExprAct`, `SetAct`, `CardAct`, `DeckAct`,
  `HandleAct` — the acts on each kind of object.
* `Step` — an act, a batch of steps, or a subscription with the steps its listener runs.
* `Step.firings` — how many listener programs the steps can set off in all, which bounds how deep
  programs can run inside programs.

In every act, `as` is the name under which an object is stored.
-/

namespace StoryEngine

/-- What a step that breaks off carries: one fixed text, a text of its own, or no text. -/
inductive PanicMessage where
  | fixed
  | text (s : String)
  | wordless
  deriving DecidableEq, Repr

/-- The text carried, if there is one. -/
def PanicMessage.text? : PanicMessage → Option String
  | .fixed => some "static"
  | .text s => some s
  | .wordless => none

/-- Acts on objects of any kind. -/
inductive HandleAct where
  | clone (of as : String)
  | drop (name : String)
  | unsubscribe (name : String)
  | sameObject (a b : String)
  | describe (name : String)
  | observe (name : String)
  | listenerCount (name : String)
  | clearListeners (name : String)
  | size (name : String)
  | panic (message : PanicMessage)

/-- Acts on a state. -/
inductive StateAct where
  | create (as : String)
  | set (state key : String) (value : Datum)
  | delete (state key : String)
  | get (state key : String)
  | exists (state key : String)
  | keys (state : String)
  | snapshot (state : String)
  | extend (state : String) (pairs : List (String × Datum))
  | openBatch (state as : String)
  | inBatch (state : String)
  | revision (state : String)
  | downgrade (state as : String)
  | weakDefault (as : String)
  | upgrade (weak as : String)
  | weakIs (weak state : String)

/-- Acts on a board. -/
inductive BoardAct where
  | create (as : String)
  | emit (name payload : String)

/-- Acts on an expression that is no node. -/
inductive PlainAct where
  | create (as cond : String)
  | change (name cond : String)
  | check (name state : String)

/-- Acts on a node of any kind. -/
inductive NodeAct where
  | kind (name : String)
  | bind (name state : String)
  | unbind (name : String)
  | invalidate (name : String)
  | notify (name : String)
  | dispose (name : String)
  | isBound (name : String)
  | isDisposed (name : String)
  | cacheState (name : String)
  | result (name : String)
  | check (name state : String)

/-- Acts on an expression. -/
inductive ExprAct where
  | create (as cond : String) (state : Option String)
  | change (name cond : String)

/-- Acts on a quality set.  A set is made empty if it is made without conditions. -/
inductive SetAct where
  | create (as : String) (conds : List String) (state : Option String)
  | add (name cond : String)
  | remove (name cond : String)
  | has (name cond : String)
  | member (name : String) (index : Nat) (as : String)

/-- Where the hash of a new card comes from: it is fresh, spelled out, or that of another card. -/
inductive HashSource where
  | fresh
  | spelled (text : String)
  | of (card : String)
  deriving DecidableEq, Repr

/-- Acts on a card. -/
inductive CardAct where
  | create (as content : String) (conds : List String) (state : Option String) (hash : HashSource)
  | setContent (name content : String)
  | info (name : String)
  | sameHash (a b : String)
  | qualities (name as : String)
  | setQualities (name : String) (conds : List String)
  | addQuality (name cond : String)
  | removeQuality (name cond : String)

/-- Where the configuration of a new deck comes from: there is none, or a seed, or a text. -/
inductive ConfigSource where
  | none
  | seed (seed : UInt64)
  | text (source : String)
  deriving DecidableEq, Repr

/-- Acts on a deck. -/
inductive DeckAct where
  | create (as : String) (cards : List String) (state : Option String) (config : ConfigSource)
  | cards (name : String)
  | setCards (name : String) (cards : List String)
  | state (name : String)
  | setState (name state : String)
  | getCard (name : String) (index : Nat) (as : Option String)
  | addCard (name card : String)
  | updateCard (name card : String)
  | removeCard (name card : String)
  | isCardAvailable (name card : String)
  | shuffle (name : String)
  | available (name : String)
  | availableIn (name state : String)
  | draw (name : String)
  | drawIn (name state : String)

/-- An act on some object. -/
inductive Act where
  | handle (act : HandleAct)
  | state (act : StateAct)
  | board (act : BoardAct)
  | plain (act : PlainAct)
  | node (act : NodeAct)
  | expr (act : ExprAct)
  | set (act : SetAct)
  | card (act : CardAct)
  | deck (act : DeckAct)

/-- **A step of a script.** -/
inductive Step where
  | act (act : Act)
  /-- steps during which a state keeps quiet -/
  | batch (state : String) (steps : List Step)
  /-- a listener that runs the steps the first times it is called -/
  | subscribe (on as : String) (steps : List Step) (times : Nat)

instance : Inhabited Step := ⟨.act (.handle (.panic .wordless))⟩

mutual

/-- The listener programs that one step can set off. -/
def Step.firings : Step → Nat
  | .act _ => 0
  | .batch _ steps => firingsOf steps
  | .subscribe _ _ steps times => times * (1 + firingsOf steps)

/-- **The listener programs that steps can set off in all**, if each of them runs once: a
subscription its own program as often as it says, each time with all that the program sets off. -/
def firingsOf : List Step → Nat
  | [] => 0
  | step :: steps => step.firings + firingsOf steps

end

end StoryEngine
