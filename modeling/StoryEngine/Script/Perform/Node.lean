import StoryEngine.Script.Lookup
import StoryEngine.World.Lifecycle

/-!
# Acts on nodes

* `World.performNode` — what can be done with a node of any kind.
* `World.performExpr`, `World.performSet` — making and editing expressions and quality sets.
* `World.performPlain` — expressions that are no nodes: they are checked against a state by hand.
* `World.performBoard` — boards, which pass messages on.
-/

namespace StoryEngine.World

variable (react : Reaction)

/-- **An act on a node of any kind.** -/
def performNode : NodeAct → Doing
  | .kind name => withNode name fun n w => (w, .text n.kind.name)
  | .bind name state => withNode name fun n => withState state fun s w =>
    (w.bindNode n s).map id (.ofExcept fun _ => .null)
  | .unbind name => withNode name fun n w => (w.unbindNode n, .null)
  | .invalidate name => withNode name fun n w => (w.invalidateNode n, .null)
  | .notify name => withNode name fun n w => (w.pushNode react n none, .null)
  | .dispose name => withNode name fun n w => (w.disposeNode n, .null)
  | .isBound name => withNode name fun n w => (w, .flag (w.isBound n))
  | .isDisposed name => withNode name fun n w => (w, .flag (w.isDisposed n))
  | .cacheState name => withTruth name fun n w => (w, .cache (w.truthStatus n))
  | .result name => withTruth name fun n w => (w.truthResult n).map id (.ofExcept .flag)
  | .check name state => withState state fun s => withTruth name fun n w =>
    (w.truthCheck n s).map id .flag

/-! ## Expressions and quality sets -/

/-- **An act on an expression.** -/
def performExpr : ExprAct → Doing
  | .create as cond state => withState? state fun s w =>
    let (w, e) := w.newExpr cond s
    w.stored react as (.handle (.expr e))
  | .change name cond => withExpr name fun e w => (w.changeExpr react e cond, .null)

/-- **An act on a quality set.** -/
def performSet : SetAct → Doing
  | .create as conds state => withState? state fun s w =>
    let (w, q) := w.newSet conds s
    w.stored react as (.handle (.set q))
  | .add name cond => withSet name fun q w =>
    (w.addQuality react q cond).map id (.ofExcept .flag)
  | .remove name cond => withSet name fun q w =>
    (w.removeQuality react q cond).map id .flag
  | .has name cond => withSet name fun q w => (w, .flag (w.hasQuality q cond))
  | .member name index as => withSet name fun q w =>
    match (w.members q)[index]? with
    | some e => w.stored react as (.handle (.expr e))
    | none => (w, .none)

/-! ## Boards and plain expressions -/

/-- **An act on a board.** -/
def performBoard : BoardAct → Doing
  | .create as => fun w =>
    let b : BoardId := ⟨w.boards.size⟩
    { w with boards := w.boards.add .empty }.stored react as (.handle (.board b))
  | .emit name message => withBoard name fun b w => (w.emit react b message, .null)

/-- **An act on an expression that is no node.** -/
def performPlain : PlainAct → Doing
  | .create as cond => fun w => w.stored react as (.plain (.new cond))
  | .change name cond => withPlain name fun _ w => (w.put name (.plain (.new cond)), .null)
  | .check name state => withState state fun s => withPlain name fun e w =>
    let (w, value) := w.checkAgainst e s
    (w, .flag value)

end StoryEngine.World
