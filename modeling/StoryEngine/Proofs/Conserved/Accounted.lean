import StoryEngine.Proofs.Conserved.Owners
import StoryEngine.Proofs.Freshness

/-!
# Owners that are alive hold numbers that count

Nodes are disposed of through their owners only.  So a quality set that is alive is subscribed to
all its members, and a card to its quality set until it is disposed of itself.

* `World.Ownerless`, `Licence.keeping` — the licence to dispose of what nobody alive owns.
* **`World.Accounted`** — no subscription is lost, and those of owners that are alive count.
* `World.Accounted.gains`, `World.Accounted.disposeNode`, … — what kinds of work keep this so.
* **`World.Accounted.transaction`** — every transaction does.
-/

namespace StoryEngine

/-! ## The licence -/

/-- **Whether nobody alive owns a node.** -/
def World.Ownerless (w : World) : NodeId → Prop
  | .expr e => Unowned w.Alive w e
  | .set q => ∀ c, w.Alive (.card c) → (w.card c).qualities ≠ q
  | .card c => ∀ d, w.Alive (.deck d) → c ∉ (w.deck d).cards
  | .deck _ => True

lemma World.ownerless_hold {w : World} {hs : List Handle} (rooted : ∀ h ∈ hs, w.isRooted h)
    {n : NodeId} (h : w.Ownerless n) : (w.hold hs).Ownerless n := by
  have alive : ∀ {x}, (w.hold hs).Alive x → w.Alive x :=
    (alive_hold fun x mem => .root (rooted x mem)).1
  cases n with
  | expr e => exact fun q hq => h q (alive hq)
  | set q => exact fun c hc => h c (alive hc)
  | card c => exact fun d hd => h d (alive hd)
  | deck => trivial

/-- **The licence to keep subscriptions**: what has an owner is disposed of through its owner only,
and no emitter is cleared of its listeners. -/
def Licence.keeping : Licence where
  disposes w n := w.Ownerless n
  clears _ _ := False
  disposes_hold rooted h := World.ownerless_hold rooted h
  clears_hold _ h := h

namespace World

variable {gone : List NodeId} {since : NodeId → Nat} {w v u : World}

/-! ## The invariant -/

/-- **No subscription is lost, and owners that are alive hold numbers that count.** -/
structure Accounted (since : NodeId → Nat) (w : World) : Prop extends Owned w.Alive w where
  account : w.Conserved 0 since
  names : Distinct w.names
  named : ∀ {name l}, (name, .subscription l) ∈ w.names → l.place < w.listeners.size
  memberCurrent : ∀ {q m}, w.Alive (.set q) → m ∈ (w.set q).members →
    since (.expr m.expr) ≤ m.number
  current : ∀ {c}, w.Alive (.card c) →
    ((w.card c).disposed = false ↔ since (.set (w.card c).qualities) ≤ (w.card c).number)

namespace Accounted

lemma unmade_expr (h : w.Accounted since) {e : ExprId} (unmade : w.exprs.size ≤ e.place) :
    since (.expr e) = 0 := by
  have begun := h.account.begun (.expr e)
  rw [registry, expr, Table.get_of_size_le unmade] at begun
  exact Nat.le_zero.1 begun

lemma unmade_set (h : w.Accounted since) {q : SetId} (unmade : w.sets.size ≤ q.place) :
    since (.set q) = 0 := by
  have begun := h.account.begun (.set q)
  rw [registry, set, Table.get_of_size_le unmade] at begun
  exact Nat.le_zero.1 begun

/-- A card has a number that its quality set has given out. -/
lemma number_lt (h : w.Accounted since) {c : CardId} (alive : w.Alive (.card c)) :
    (w.card c).number < (w.registry (.set (w.card c).qualities)).next := by
  have held : (Emitter.set (w.card c).qualities, (w.card c).number) ∈
      (w.holdings + 0) (.node (.card c)) := by
    rw [add_zero, holdings, if_pos (h.bounded alive)]
    exact Multiset.mem_singleton_self _
  exact h.account.below held

lemma unnamed (h : w.Accounted since) : w.timesNamed ⟨w.listeners.size⟩ = 0 := by
  refine List.countP_eq_zero.2 fun ⟨name, o⟩ mem found => ?_
  cases o with
  | subscription l =>
      obtain rfl : l = ⟨w.listeners.size⟩ := by simpa [Object.subscription?] using found
      exact absurd (h.named mem) (Nat.lt_irrefl _)
  | _ => simp [Object.subscription?] at found

/-! ## What keeps it so -/

/-- **After some work**, in which whoever owned something that is disposed of has lost it, or has
been disposed of itself. -/
lemma after (h : w.Accounted since) (account : v.Conserved 0 (w.raised gone since))
    (owned : v.Owned v.Alive) (names : Distinct v.names)
    (named : ∀ {name l}, (name, .subscription l) ∈ v.names → l.place < v.listeners.size)
    (member : ∀ {q m}, v.Alive (.set q) → m ∈ (v.set q).members → .expr m.expr ∉ gone ∧
      (w.Alive (.set q) ∧ m ∈ (w.set q).members ∨ w.exprs.size ≤ m.expr.place))
    (current : ∀ {c}, v.Alive (.card c) →
      NodeId.set (v.card c).qualities ∉ gone ∧
        (w.Alive (.card c) ∧ (v.card c).tenure = (w.card c).tenure ∨
          (v.card c).disposed = false ∧ w.sets.size ≤ (v.card c).qualities.place) ∨
      NodeId.set (w.card c).qualities ∈ gone ∧ w.Alive (.card c) ∧
        (v.card c).tenure = ((w.card c).qualities, (w.card c).number, true)) :
    v.Accounted (w.raised gone since) := by
  refine { owned with account, names, named, memberCurrent := ?_, current := ?_ }
  · intro q m hq mem
    obtain ⟨kept, had | new⟩ := member hq mem
    all_goals rw [raised, if_neg kept]
    · exact h.memberCurrent had.1 had.2
    · rw [h.unmade_expr new]
      exact Nat.zero_le _
  · intro c hc
    rcases current hc with ⟨kept, ⟨alive, same⟩ | ⟨usable, new⟩⟩ | ⟨lost, alive, same⟩
    · obtain ⟨qualities, rest⟩ := Prod.mk.inj same
      obtain ⟨number, disposed⟩ := Prod.mk.inj rest
      rw [raised, if_neg kept, qualities, number, disposed]
      exact h.current alive
    · rw [raised, if_neg kept, h.unmade_set new]
      exact ⟨fun _ => Nat.zero_le _, fun _ => usable⟩
    · obtain ⟨qualities, rest⟩ := Prod.mk.inj same
      obtain ⟨number, disposed⟩ := Prod.mk.inj rest
      rw [qualities, number, disposed, raised, if_pos lost]
      exact ⟨Bool.noConfusion, fun le => absurd (h.number_lt alive) (Nat.not_lt.2 le)⟩

/-- **Owners have gained what is new**, and nothing was disposed of. -/
lemma gains (h : w.Accounted since) (g : w.Gains v) (account : Conserves 0 0 w v)
    (owned : v.Owned v.Alive) (names : Distinct v.names)
    (named : ∀ {name l}, (name, .subscription l) ∈ v.names → l.place < v.listeners.size)
    (sets : ∀ {q}, v.Alive (.set q) → w.Alive (.set q) ∨ w.sets.size ≤ q.place)
    (cards : ∀ {c}, v.Alive (.card c) → w.Alive (.card c) ∨
      (v.card c).disposed = false ∧ w.sets.size ≤ (v.card c).qualities.place) :
    v.Accounted since := by
  rw [← raised_nil (w := w) since]
  refine h.after ?_ owned names named ?_ ?_
  · rw [raised_nil, ← add_zero 0]
    refine account.kept ?_
    rw [add_zero]
    exact h.account
  · intro q m hq mem
    refine ⟨List.not_mem_nil, ?_⟩
    rcases g.members q m mem with had | new
    · rcases sets hq with was | unmade
      · exact .inl ⟨was, had⟩
      · exact absurd (set_bound (List.mem_map_of_mem had)) (Nat.not_lt.2 unmade)
    · exact .inr new
  · intro c hc
    refine .inl ⟨List.not_mem_nil, ?_⟩
    rcases g.tenure c with same | new
    · exact (cards hc).imp_left fun was => ⟨was, same⟩
    · exact .inr new

/-- What is new is held on to, or has an owner. -/
lemma widened {more : CardId → Prop} (h : w.Accounted since) (g : w.Gains v)
    (account : Conserves 0 0 w v) (wider : w.Wider (fun c => w.Alive (.card c)) v)
    (owned : v.Owned (w.Within more)) (names : v.names = w.names)
    (listeners : w.listeners.size ≤ v.listeners.size)
    (root : ∀ x, v.isRooted x → w.Within more x)
    (new : ∀ c, more c →
      (v.card c).disposed = false ∧ w.sets.size ≤ (v.card c).qualities.place) :
    v.Accounted since := by
  have within : ∀ {x}, v.Alive x → w.Within more x := fun after =>
    wider.alive h.toCardsExist root (fun c isMore => (new c isMore).2) after
  refine h.gains g account (owned.mono fun _ => within) ?_ ?_ ?_ ?_
  · rw [names]
    exact h.names
  · intro name l mem
    rw [names] at mem
    exact Nat.lt_of_lt_of_le (h.named mem) listeners
  · intro q hq
    rcases within hq with was | unmade | ⟨_, eq, _⟩
    · exact .inl was
    · exact .inr unmade
    · cases eq
  · intro c hc
    rcases within hc with was | unmade | ⟨c', eq, isMore⟩
    · exact .inl was
    · exact unmade.elim
    · rw [Handle.card.inj eq]
      exact .inr (new c' isMore)

/-- **Something new is made** and held on to. -/
lemma made {more : CardId → Prop} (h : w.Accounted since) (new : NodeId) (g : w.Gains v)
    (account : Conserves 0 0 w v) (wider : w.Wider (fun c => w.Alive (.card c)) v)
    (owned : v.Owned (w.Within more)) (onward : w.Onward v) (within : w.Within more new.handle)
    (exist : ∀ c, new = .card c → c.place < v.cards.size)
    (usable : ∀ c, more c →
      (v.card c).disposed = false ∧ w.sets.size ≤ (v.card c).qualities.place) :
    (v.hold [new.handle]).Accounted since := by
  have rooted : ∀ {x}, (v.hold [new.handle]).isRooted x → w.Alive x ∨ x = new.handle := by
    intro x root
    rcases isRooted_hold.1 root with mem | root
    · exact .inr (List.mem_singleton.1 mem)
    · rw [onward.isRooted_eq] at root
      exact .inl (.root root)
  have held : Conserves 0 0 w (v.hold [new.handle]) :=
    account.trans (clears_withHeld ([new.handle] ++ v.held) v).conserves
  have bounded : ∀ {c}, (v.hold [new.handle]).isRooted (.card c) →
      c.place < (v.hold [new.handle]).cards.size := by
    intro c root
    rcases rooted root with was | eq
    · exact Nat.lt_of_lt_of_le (h.bounded was) wider.cards
    · exact exist c (by cases new <;> cases eq; rfl)
  have owned : (v.hold [new.handle]).Owned (w.Within more) := { owned with rooted := bounded }
  have gains : w.Gains (v.hold [new.handle]) := { g with }
  refine h.widened gains held { wider with } owned onward.names ?_ ?_ usable
  · exact Nat.le_of_eq (congrArg Table.size onward.table).symm
  intro x root
  rcases rooted root with was | rfl
  · exact .inl was
  · exact within

end Accounted

/-! ### Names and holds -/

/-- **Other names and holds** that keep no node alive but what is alive already, after some work in
which nobody came to own anything. -/
lemma Tighter.alive_rerooted (t : w.Tighter (fun c => w.Alive (.card c)) v) (exist : w.CardsExist)
    {names : List (String × Object)} {held : List Handle}
    (root : ∀ x, (v.withRoots names held).isRooted x → x.node? = none ∨ w.Alive x) {x : Handle}
    (after : (v.withRoots names held).Alive x) : x.node? = none ∨ w.Alive x := by
  induction after with
  | root rooted => exact root _ rooted
  | state => exact .inl rfl
  | batch => exact .inl rfl
  | @card d c mem _ ih =>
      obtain none | alive := ih
      · cases none
      · exact .inr ((t.deckCards d c mem).elim (fun mem => .card mem alive) id)
  | @set c _ _ ih =>
      obtain none | alive := ih
      · cases none
      · have same : ((v.withRoots names held).card c).qualities = (w.card c).qualities :=
          t.qualities c
        rw [same]
        exact .inr (.set (exist.bounded alive) alive)
  | @expr q e mem _ ih =>
      obtain none | alive := ih
      · cases none
      · exact .inr (.expr ((t.members q).subset mem) alive)

lemma Accounted.rerooted (h : w.Accounted since) (t : w.Tighter (fun c => w.Alive (.card c)) v)
    (spared : Spares [] w v) {names : List (String × Object)} {held : List Handle}
    (account : Conserves 0 0 w (v.withRoots names held)) (distinct : Distinct names)
    (named : ∀ {name l}, (name, .subscription l) ∈ names → l.place < v.listeners.size)
    (root : ∀ x, (v.withRoots names held).isRooted x → x.node? = none ∨ w.Alive x) :
    (v.withRoots names held).Accounted since := by
  have alive : ∀ {n : NodeId}, (v.withRoots names held).Alive n.handle → w.Alive n.handle := by
    intro n after
    refine (t.alive_rerooted h.toCardsExist root after).resolve_left ?_
    cases n <;> simp [NodeId.handle, Handle.node?]
  have owned : v.Owned w.Alive := h.toOwned.tighter t fun c => h.bounded
  have rooted : (v.withRoots names held).Owned w.Alive :=
    { owned with
      rooted := fun rooted => Nat.lt_of_lt_of_le
        (h.bounded (alive (n := .card _) (.root rooted))) t.cards }
  have gains : w.Gains (v.withRoots names held) := { spared.gains t.exprs t.sets with }
  exact h.gains gains account (rooted.mono fun c => alive (n := .card c)) distinct named
    (fun hq => .inl (alive (n := .set _) hq)) fun hc => .inl (alive (n := .card _) hc)

/-- **Nobody has come to own anything**, and names and holds stay as they are. -/
lemma Accounted.quiet (h : w.Accounted since) (t : w.Tighter (fun c => w.Alive (.card c)) v)
    (spared : Spares [] w v) (account : Conserves 0 0 w v)
    (listeners : w.listeners.size ≤ v.listeners.size) : v.Accounted since := by
  show (v.withRoots v.names v.held).Accounted since
  refine h.rerooted t spared account ?_ ?_ ?_
  · rw [t.names]
    exact h.names
  · intro name l mem
    rw [t.names] at mem
    exact Nat.lt_of_lt_of_le (h.named mem) listeners
  · intro x rooted
    have rooted : v.isRooted x := rooted
    rw [t.isRooted_eq] at rooted
    exact .inr (.root rooted)

/-! ### What is disposed of -/

lemma of_expr_mem_disposedWith {n : NodeId} {e : ExprId} (mem : .expr e ∈ w.disposedWith n) :
    n = .expr e ∨ ∃ q, .set q ∈ w.disposedWith n ∧ e ∈ w.members q := by
  cases n with
  | expr e' =>
      exact .inl (List.mem_singleton.1 mem).symm
  | set q =>
      refine .inr ⟨q, List.mem_cons_self, ?_⟩
      simpa [disposedWith, setAndMembers] using mem
  | card c =>
      refine .inr ⟨(w.card c).qualities, .tail _ List.mem_cons_self, ?_⟩
      simpa [disposedWith, cardAndQualities, setAndMembers] using mem
  | deck d =>
      obtain ⟨c, isCard, owned⟩ : ∃ c ∈ (w.deck d).cards, e ∈ w.members (w.card c).qualities := by
        simpa [disposedWith, cardAndQualities, setAndMembers] using mem
      refine .inr ⟨(w.card c).qualities, .tail _ (List.mem_flatMap.2 ⟨c, isCard, ?_⟩), owned⟩
      exact .tail _ List.mem_cons_self

lemma of_set_mem_disposedWith {n : NodeId} {q : SetId} (alive : w.Alive n.handle)
    (mem : .set q ∈ w.disposedWith n) :
    n = .set q ∨ ∃ c, .card c ∈ w.disposedWith n ∧ w.Alive (.card c) ∧
      (w.card c).qualities = q := by
  cases n with
  | expr e => simp [disposedWith] at mem
  | set q' =>
      obtain rfl : q = q' := by simpa [disposedWith, setAndMembers] using mem
      exact .inl rfl
  | card c =>
      obtain rfl : q = (w.card c).qualities := by
        simpa [disposedWith, cardAndQualities, setAndMembers] using mem
      exact .inr ⟨c, List.mem_cons_self, alive, rfl⟩
  | deck d =>
      obtain ⟨c, isCard, rfl⟩ : ∃ c ∈ (w.deck d).cards, q = (w.card c).qualities := by
        simpa [disposedWith, cardAndQualities, setAndMembers] using mem
      refine .inr ⟨c, .tail _ (List.mem_flatMap.2 ⟨c, isCard, ?_⟩), .card isCard alive, rfl⟩
      exact List.mem_cons_self

lemma qualities_mem_disposedWith {n : NodeId} {c : CardId} (mem : .card c ∈ w.disposedWith n) :
    .set (w.card c).qualities ∈ w.disposedWith n := by
  cases n with
  | expr e => simp [disposedWith] at mem
  | set q => simp [disposedWith, setAndMembers] at mem
  | card c' =>
      obtain rfl : c = c' := by simpa [disposedWith, cardAndQualities, setAndMembers] using mem
      exact .tail _ List.mem_cons_self
  | deck d =>
      have isCard : c ∈ (w.deck d).cards := by
        simpa [disposedWith, cardAndQualities, setAndMembers] using mem
      exact .tail _ (List.mem_flatMap.2 ⟨c, isCard, .tail _ List.mem_cons_self⟩)

namespace Accounted

/-- Work that disposes of some nodes keeps the account. -/
lemma cleared (h : w.Accounted since) (c : Clears gone 0 0 w v) :
    v.Conserved 0 (w.raised gone since) := by
  rw [← add_zero 0]
  refine c.kept ?_
  rw [add_zero]
  exact h.account

/-- **A node that nobody owns is disposed of**, and what it owns with it. -/
lemma disposeNode (h : w.Accounted since) {n : NodeId} (alive : w.Alive n.handle)
    (free : w.Ownerless n) :
    (w.disposeNode n).Accounted (w.raised (w.disposedWith n) since) := by
  have t : w.Tighter (fun _ => False) (w.disposeNode n) := tighter_disposeNode n w
  have spared := spares_disposeNode n w
  have was : ∀ {x}, (w.disposeNode n).Alive x → w.Alive x := t.alive h.toOwned nofun
  refine h.after (h.cleared (clears_disposeNode h.toCardsExist alive))
    ((h.toOwned.tighten t).mono fun _ => was) ?_ ?_ ?_ ?_
  · rw [t.names]
    exact h.names
  · intro name l mem
    rw [t.names] at mem
    exact Nat.lt_of_lt_of_le (h.named mem) (onward_disposeNode n w).listeners
  · intro q m hq mem
    rw [spared.members] at mem
    split at mem
    · cases mem
    · next kept =>
        refine ⟨fun lost => ?_, .inl ⟨was hq, mem⟩⟩
        have owned : m.expr ∈ w.members q := List.mem_map_of_mem mem
        rcases of_expr_mem_disposedWith lost with rfl | ⟨q', lost, other⟩
        · exact free q (was hq) owned
        · exact kept (h.oneSet owned other ▸ lost)
  · intro c hc
    have tenure := spared.tenure c
    split at tenure
    · next lost => exact .inr ⟨qualities_mem_disposedWith lost, was hc, tenure⟩
    · next kept =>
        refine .inl ⟨fun lost => ?_, .inl ⟨was hc, tenure⟩⟩
        rw [(spared.qualities c).1] at lost
        rcases of_set_mem_disposedWith alive lost with rfl | ⟨c', lost, alive', eq⟩
        · exact free c (was hc) rfl
        · exact kept (h.oneCard alive' (was hc) eq ▸ lost)

/-- **A quality set loses a member**, which is disposed of. -/
lemma dropMember (h : w.Accounted since) {q : SetId} {m : Member} (mem : m ∈ (w.set q).members) :
    (w.dropMember q m).Accounted (w.raised [.expr m.expr] since) := by
  have t : w.Tighter (fun _ => False) (w.dropMember q m) := tighter_dropMember q m w
  have was : ∀ {x}, (w.dropMember q m).Alive x → w.Alive x := t.alive h.toOwned nofun
  have spared : Spares [] (w.onSet q fun n => { n with members := n.members.erase m })
      (w.dropMember q m) := by
    refine Spares.before ?_ (cachesOnly_invalidateSet q _).bindingsOnly.spares
    exact (spares_disposeExpr m.expr _).before (spares_unsubscribeFrom (.expr m.expr) m.number _)
  refine h.after (h.cleared (clears_dropMember mem))
    ((h.toOwned.tighten t).mono fun _ => was) ?_ ?_ ?_ ?_
  · rw [t.names]
    exact h.names
  · intro name l mem
    rw [t.names] at mem
    exact Nat.lt_of_lt_of_le (h.named mem) (onward_dropMember q m w).listeners
  · intro other m' hq mem'
    rw [spared.members_eq, set_onSet] at mem'
    split at mem'
    · next here =>
        subst here
        refine ⟨fun lost => ?_, .inl ⟨was hq, List.mem_of_mem_erase mem'⟩⟩
        have lost : m'.expr = m.expr := by simpa using lost
        exact not_mem_erase (h.distinct q) mem (lost ▸ List.mem_map_of_mem mem')
    · next elsewhere =>
        refine ⟨fun lost => ?_, .inl ⟨was hq, mem'⟩⟩
        have lost : m'.expr = m.expr := by simpa using lost
        have owned : m'.expr ∈ w.members other := List.mem_map_of_mem mem'
        exact elsewhere (h.oneSet (List.mem_map_of_mem mem) (lost ▸ owned))
  · exact fun hc => .inl ⟨by simp, .inl ⟨was hc, spared.tenure_eq _⟩⟩

end Accounted

/-! ### Another quality set -/

lemma gains_withNewSet (c : CardId) (conds : List String) (w : World) :
    w.Gains (w.withNewSet c conds) :=
  (gains_newSet conds none w).trans (bindingsOnly_bindSetWhere c _ _).gains

lemma card_withNewSet (c c' : CardId) (conds : List String) (w : World) :
    (w.withNewSet c conds).card c' = w.card c' :=
  congrArg (fun t : Table CardNode => t.get c'.place) (withNewSet_spares c conds w).1

lemma spares_exchangeSet (c : CardId) (q : SetId) (w : World) :
    Spares [.set (w.card c).qualities] (w.turnTo c q) (w.exchangeSet c q) := by
  rw [exchangeSet_eq]
  exact (spares_disposeSet _ _).after (spares_onSet _ fun _ => rfl)

lemma setMembers_turnTo (c : CardId) (q other : SetId) (w : World) :
    ((w.turnTo c q).set other).members = (w.set other).members := by
  refine (congrArg SetNode.members (set_onSet w q other _)).trans ?_
  split <;> rfl

/-- What is in a quality set after the exchange was in it before, or is new.  The set that was let
go is empty. -/
lemma gains_members_replaceQualities {c : CardId} {conds : List String} {q : SetId} {m : Member}
    (mem : m ∈ ((w.replaceQualities c conds).1.set q).members) :
    q ≠ (w.card c).qualities ∧ (m ∈ (w.set q).members ∨ w.exprs.size ≤ m.expr.place) := by
  have spared := spares_exchangeSet c ⟨w.sets.size⟩ (w.withNewSet c conds)
  have gains := gains_withNewSet c conds w
  rw [card_withNewSet] at spared
  rw [replaceQualities_eq, spared.members] at mem
  split at mem
  · cases mem
  · next elsewhere =>
      rw [setMembers_turnTo] at mem
      exact ⟨fun eq => elsewhere (by rw [eq]; exact List.mem_singleton_self _),
        gains.members q m mem⟩

/-- The card that gets another quality set has the new one, and the other cards keep theirs. -/
lemma tenure_replaceQualities (c : CardId) (conds : List String) (w : World) (c' : CardId) :
    ((w.replaceQualities c conds).1.card c').tenure =
      if c = c' then
        (⟨w.sets.size⟩, ((w.withNewSet c conds).set ⟨w.sets.size⟩).listeners.next,
          (w.card c).disposed)
      else (w.card c').tenure := by
  have spared := spares_exchangeSet c ⟨w.sets.size⟩ (w.withNewSet c conds)
  have tenure := (spared.tenure c').trans (if_neg (by simp))
  rw [replaceQualities_eq, tenure, card_turnTo, card_withNewSet]
  split
  · next here =>
      subst here
      rfl
  · rfl

/-- **A card has another quality set**, and the one that it had is disposed of. -/
lemma Accounted.replaceQualities (h : w.Accounted since) {c : CardId} (alive : w.Alive (.card c))
    (usable : (w.card c).disposed = false) (conds : List String) :
    (w.replaceQualities c conds).1.Accounted
      (w.raised (w.setAndMembers (w.card c).qualities) since) := by
  have account := conserved_replaceQualities h.toOwned alive conds h.account
  have owned := h.toOwned.replaceQualities c conds
  have onward := onward_replaceQualities c conds w
  have within : ∀ {x}, (w.replaceQualities c conds).1.Alive x → w.Within (fun _ => False) x := by
    refine (wider_replaceQualities c conds w).alive h.toCardsExist (fun x root => .inl (.root ?_))
      nofun
    rwa [onward.isRooted_eq] at root
  refine h.after account (owned.mono fun _ after => within_card (within after)) ?_ ?_ ?_ ?_
  · rw [onward.names]
    exact h.names
  · intro name l mem
    rw [onward.names] at mem
    exact Nat.lt_of_lt_of_le (h.named mem) onward.listeners
  · intro q m hq mem
    obtain ⟨elsewhere, had | new⟩ := gains_members_replaceQualities mem
    all_goals refine ⟨fun lost => ?_, ?_⟩
    · exact elsewhere (h.oneSet (List.mem_map_of_mem had) (by simpa [setAndMembers] using lost))
    · rcases within hq with was | unmade | ⟨_, eq, _⟩
      · exact .inl ⟨was, had⟩
      · exact absurd (set_bound (List.mem_map_of_mem had)) (Nat.not_lt.2 unmade)
      · cases eq
    · have other : m.expr ∈ w.members (w.card c).qualities := by
        simpa [setAndMembers] using lost
      exact absurd (h.toOwned.member other) (Nat.not_lt.2 new)
    · exact .inr new
  · intro c' hc'
    have was := within_card (within hc')
    have tenure := tenure_replaceQualities c conds w c'
    left
    split at tenure
    · next here =>
        obtain ⟨qualities, rest⟩ := Prod.mk.inj tenure
        rw [qualities, (Prod.mk.inj rest).2]
        refine ⟨fun lost => ?_, .inr ⟨usable, Nat.le_refl _⟩⟩
        have old : (⟨w.sets.size⟩ : SetId) = (w.card c).qualities := by
          simpa [setAndMembers] using lost
        exact absurd (congrArg SetId.place old) (Nat.ne_of_gt (h.quality alive))
    · next elsewhere =>
        obtain ⟨qualities, -⟩ := Prod.mk.inj tenure
        refine ⟨fun lost => ?_, .inl ⟨was, tenure⟩⟩
        have same : (w.card c').qualities = (w.card c).qualities := by
          simpa [setAndMembers, qualities] using lost
        exact elsewhere (h.oneCard alive was same.symm)

/-! ### Names -/

lemma dropSubscription_withRoots (o : Option Object) (names : List (String × Object))
    (held : List Handle) (w : World) :
    (w.withRoots names held).dropSubscription o =
      (w.dropSubscription o).withRoots names held := by
  rcases o with _ | _ | _ | _ | l <;> try rfl
  show (w.withRoots names held).unsubscribeFrom (w.listener l).emitter (w.listener l).number =
    (w.unsubscribeFrom (w.listener l).emitter (w.listener l).number).withRoots names held
  cases (w.listener l).emitter <;> rfl

lemma tighter_dropSubscription {gained : CardId → Prop} (o : Option Object) (w : World) :
    w.Tighter gained (w.dropSubscription o) := by
  unfold dropSubscription
  split
  · exact tighter_unsubscribeFrom _ _ w
  · exact .refl w

lemma dropSubscription_listeners (o : Option Object) (w : World) :
    (w.dropSubscription o).listeners = w.listeners := by
  unfold dropSubscription
  split
  · exact (onward_unsubscribeFrom _ _ w).table
  · rfl

/-- What may be held on to is alive, if it is a node. -/
lemma Offers.node_alive (exist : w.CardsExist) {x : Handle} (offered : w.Offers x) :
    x.node? = none ∨ w.Alive x := by
  rcases offered with none | alive | ⟨c, alive, rfl⟩
  · exact .inl none
  · exact .inr alive
  · exact .inr (.set (exist.bounded alive) alive)

namespace Accounted

lemma still (h : w.Accounted since) (still : w.Still v) : v.Accounted since := by
  refine h.quiet ?_ still.spares still.clears.conserves still.listeners
  refine ⟨fun q => ?_, fun c => congrArg Prod.fst (still.card c), fun d c mem => ?_, still.names,
    still.held, still.exprs, still.sets, Nat.le_of_eq still.cards.symm⟩
  · have same : (v.set q).members = (w.set q).members := congrArg Prod.fst (still.set q)
    rw [members, members, same]
  · have same : (v.deck d).entries = (w.deck d).entries := congrArg Prod.fst (still.deck d)
    rw [DeckNode.cards, same] at mem
    exact .inl mem

/-- **Some things are held on to.** -/
lemma withHeld (h : w.Accounted since) {held : List Handle}
    (offered : ∀ x ∈ held, w.Offers x) : ({ w with held } : World).Accounted since := by
  show (w.withRoots w.names held).Accounted since
  refine h.rerooted (.refl w) (.refl w) (clears_withHeld held w).conserves h.names h.named ?_
  intro x rooted
  rcases isRooted_iff.1 rooted with mem | named
  · exact (offered x mem).node_alive h.toCardsExist
  · exact .inr (.root (isRooted_iff.2 (.inr named)))

/-- **A name gets an object**, and the subscription that it stood for ends. -/
lemma store (h : w.Accounted since) (name : String) {o : Object} (offered : w.OffersObject o)
    {held : List Handle} (kept : held ⊆ w.held) :
    ({ w.replace name o with held } : World).Accounted since := by
  have commuted : ({ w.replace name o with held } : World) =
      (w.dropSubscription (w.find? name)).withRoots (w.put name o).names held := by
    have put : w.put name o = w.withRoots (w.put name o).names w.held := rfl
    rw [replace, put, dropSubscription_withRoots]
    rfl
  have plain : o.subscription? = none := by
    cases o with
    | subscription l => exact offered.elim
    | _ => rfl
  have replaced := clears_replace h.names name o
  rw [handOf_eq_zero plain] at replaced
  have account := replaced.conserves.trans (clears_withHeld held _).conserves
  rw [commuted] at account ⊢
  refine h.rerooted (tighter_dropSubscription _ w) (spares_dropSubscription _ w) account
    (distinct_put name o h.names)
    ?_ ?_
  · intro other l mem
    rw [dropSubscription_listeners]
    rcases mem_put mem with eq | mem
    · rw [← (Prod.mk.inj eq).2] at plain
      cases plain
    · exact h.named mem
  · intro x rooted
    rcases isRooted_iff.1 rooted with mem | ⟨other, mem⟩
    · exact .inr (alive_of_held (kept mem))
    · rcases mem_put mem with eq | mem
      · rw [← (Prod.mk.inj eq).2] at offered
        exact offered.node_alive h.toCardsExist
      · exact .inr (.root (isRooted_iff.2 (.inr ⟨other, mem⟩)))

/-- **A name is forgotten**, and the subscription that it stood for ends. -/
lemma forget (h : w.Accounted since) (name : String) : (w.forget name).Accounted since := by
  have commuted : w.forget name =
      (w.dropSubscription (w.find? name)).withRoots (w.erase name).names w.held := by
    rw [← dropSubscription_withRoots]
    rfl
  have account := (clears_forget h.names name).conserves
  rw [commuted] at account ⊢
  have fewer : ∀ {entry}, entry ∈ (w.erase name).names → entry ∈ w.names :=
    fun mem => (List.mem_filter.1 mem).1
  refine h.rerooted (tighter_dropSubscription _ w) (spares_dropSubscription _ w) account
    (distinct_erase name h.names) ?_ ?_
  · intro other l mem
    rw [dropSubscription_listeners]
    exact h.named (fewer mem)
  · intro x rooted
    rcases isRooted_iff.1 rooted with mem | ⟨other, mem⟩
    · exact .inr (alive_of_held mem)
    · exact .inr (.root (isRooted_iff.2 (.inr ⟨other, fewer mem⟩)))

/-- **A listener subscribes**, and a name stands for its subscription. -/
lemma subscribe (h : w.Accounted since) {emitter : Emitter} (alive : w.Alive emitter.handle)
    (name : String) (program : List Step) (times : Nat) :
    ((w.newListener emitter name program times).1.replace name
      (.subscription ⟨w.listeners.size⟩)).Accounted since := by
  have exist : ∀ c, emitter = .card c → c.place < w.cards.size := by
    rintro c rfl
    exact h.bounded alive
  have account := conserves_subscribe name program times exist h.names h.unnamed
  have tight : w.Tighter (fun c => w.Alive (.card c))
    (w.newListener emitter name program times).1 :=
    tighter_newListener emitter name program times w
  have spared : Spares [] w (w.newListener emitter name program times).1 :=
    (spares_subscribeTo emitter ⟨w.listeners.size⟩ w).before
      (spares_of_same (fun _ => rfl) fun _ => rfl)
  have size : (w.newListener emitter name program times).1.listeners.size =
      w.listeners.size + 1 := by
    have table := (onward_subscribeTo emitter ⟨w.listeners.size⟩ w).table
    rw [newListener, Table.size_add, table]
  generalize (w.newListener emitter name program times).1 = v at *
  have commuted : v.replace name (.subscription ⟨w.listeners.size⟩) =
      (v.dropSubscription (v.find? name)).withRoots
        (v.put name (.subscription ⟨w.listeners.size⟩)).names
        v.held := by
    rw [← dropSubscription_withRoots]
    rfl
  rw [commuted] at account ⊢
  refine h.rerooted (tight.trans (tighter_dropSubscription _ v))
    (spared.before (spares_dropSubscription _ v)) account
    (distinct_put name _ (tight.names ▸ h.names)) ?_ ?_
  · intro other l mem
    rw [dropSubscription_listeners, size]
    rcases mem_put mem with eq | mem
    · rw [Object.subscription.inj (Prod.mk.inj eq).2]
      exact Nat.lt_succ_self _
    · rw [tight.names] at mem
      exact Nat.lt_succ_of_lt (h.named mem)
  · intro x rooted
    rcases isRooted_iff.1 rooted with mem | ⟨other, mem⟩
    · exact .inr (alive_of_held (tight.held ▸ mem))
    · rcases mem_put mem with eq | mem
      · cases (Prod.mk.inj eq).2
      · exact .inr (.root (isRooted_iff.2 (.inr ⟨other, tight.names ▸ mem⟩)))

/-! ### What is new -/

lemma newExpr (h : w.Accounted since) (cond : String) (state : Option StateId) :
    ((w.newExpr cond state).1.hold [.expr (w.newExpr cond state).2]).Accounted since := by
  have tight : w.Tighter (fun c => w.Alive (.card c)) (w.newExpr cond state).1 :=
    tighter_newExpr cond state w
  have owned : (w.newExpr cond state).1.Owned (w.Within fun _ => False) :=
    (h.toOwned.tighten (tighter_newExpr cond state w)).mono fun _ => within_card
  refine h.made (.expr (w.newExpr cond state).2) (gains_newExpr cond state w)
    (conserves_newExpr cond state w) tight.wider owned (onward_newExpr cond state w) ?_ nofun nofun
  rw [newExpr_id]
  exact .inr (.inl (Nat.le_refl _))

lemma newSet (h : w.Accounted since) (conds : List String) (state : Option StateId) :
    ((w.newSet conds state).1.hold [.set (w.newSet conds state).2]).Accounted since := by
  have owned : (w.newSet conds state).1.Owned (w.Within fun _ => False) :=
    (h.toOwned.newSet conds state).mono fun _ => within_card
  exact h.made (.set ⟨w.sets.size⟩) (gains_newSet conds state w)
    (conserves_newSet conds state w) (wider_newSet conds state w) owned
    (onward_newSet conds state w) (.inr (.inl (Nat.le_refl _))) nofun nofun

lemma newCard (h : w.Accounted since) (hash : CardHash) (content : String) (conds : List String)
    (state : Option StateId) :
    ((w.newCard hash content conds state).1.hold
      [.card (w.newCard hash content conds state).2]).Accounted since := by
  have only := bindingsOnly_newCard hash content conds state w
  have made : (w.newCard hash content conds state).1.Owned
      fun x => w.Alive x ∨ x = .card ⟨w.cards.size⟩ :=
    h.toOwned.newCard (fun _ => h.bounded) hash content conds state
  have owned : (w.newCard hash content conds state).1.Owned
      (w.Within (· = ⟨w.cards.size⟩)) := by
    refine made.mono fun c within => ?_
    rcases within with alive | unmade | ⟨c', eq, rfl⟩
    · exact .inl alive
    · exact unmade.elim
    · exact .inr eq
  rw [newCard_id]
  refine h.made (.card ⟨w.cards.size⟩) (gains_newCard hash content conds state w)
    (conserves_newCard hash content conds state w) (wider_newCard hash content conds state w) owned
    (onward_newCard hash content conds state w) (.inr (.inr ⟨_, rfl, rfl⟩)) ?_ ?_
  · rintro c eq
    rw [← NodeId.card.inj eq]
    exact newCard_bound hash content conds state w
  · rintro c rfl
    refine ⟨?_, Nat.le_of_eq (by rw [newCard_qualities])⟩
    rw [only.card, bareCard, card, Table.get_add, if_pos rfl]

lemma newDeck (h : w.Accounted since) (config : DeckConfig) {cards : List CardId}
    (state : Option StateId) (alive : ∀ c ∈ cards, w.Alive (.card c)) :
    ((w.newDeck config cards state).1.hold [.deck (w.newDeck config cards state).2]).Accounted
      since := by
  have tight : w.Tighter (fun c => w.Alive (.card c)) (w.newDeck config cards state).1 :=
    tighter_newDeck config state w alive
  have owned : (w.newDeck config cards state).1.Owned (w.Within fun _ => False) :=
    (h.toOwned.tighter tight fun _ => h.bounded).mono fun _ => within_card
  have exist : ∀ c ∈ cards, c.place < w.cards.size := fun c mem => h.bounded (alive c mem)
  refine h.made (.deck (w.newDeck config cards state).2)
    ((spares_newDeck config cards state w).gains tight.exprs tight.sets)
    (conserves_newDeck config state exist) tight.wider owned (onward_newDeck config cards state w)
    ?_ nofun nofun
  rw [newDeck_id]
  exact .inr (.inl (Nat.le_refl _))

lemma insertQuality (h : w.Accounted since) (q : SetId) (cond : String) :
    (w.insertQuality q cond).1.Accounted since := by
  have owned : (w.insertQuality q cond).1.Owned (w.Within fun _ => False) :=
    (h.toOwned.insertQuality q cond).mono fun _ => within_card
  have onward := onward_insertQuality q cond w
  refine h.widened (gains_insertQuality q cond w) (conserves_insertQuality q cond w)
    (wider_insertQuality q cond w) owned onward.names onward.listeners ?_ nofun
  intro x root
  rw [onward.isRooted_eq] at root
  exact .inl (.root root)

/-! ## Transactions -/

/-- **Every transaction keeps it so** that no subscription is lost and that owners that are alive
hold numbers that count. -/
theorem transaction (h : w.Accounted since) (t : Transaction Licence.keeping w gone v) :
    v.Accounted (w.raised gone since) := by
  -- nothing is disposed of in most of them
  have quiet : ∀ {u : World}, u.Accounted since → u.Accounted (w.raised [] since) := by
    intro u kept
    rwa [raised_nil]
  cases t with
  | still still => exact quiet (h.still still)
  | hold held offered => exact quiet (h.withHeld offered)
  | store name o offered held kept => exact quiet (h.store name offered kept)
  | forget name => exact quiet (h.forget name)
  | subscribe emitter name program times alive =>
      exact quiet (h.subscribe alive name program times)
  | clearListeners emitter clears => exact clears.elim
  | newExpr cond state => exact quiet (h.newExpr cond state)
  | newSet conds state => exact quiet (h.newSet conds state)
  | newCard hash content conds state => exact quiet (h.newCard hash content conds state)
  | newDeck config cards state alive => exact quiet (h.newDeck config state alive)
  | bind n s alive =>
      have only := bindingsOnly_bindNode n s w
      exact quiet <| h.quiet only.tighter only.spares (conserves_bindNode h.toCardsExist alive s)
        (onward_bindNode n s w).listeners
  | unbind n alive =>
      have only := bindingsOnly_unbindNode n w
      exact quiet <| h.quiet only.tighter only.spares (clears_unbindNode n w).conserves
        (onward_unbindNode n w).listeners
  | dispose n alive free => exact h.disposeNode alive free
  | insertQuality q cond => exact quiet (h.insertQuality q cond)
  | dropMember q m mem => exact h.dropMember mem
  | replaceQualities c conds alive usable => exact h.replaceQualities alive usable conds
  | editCard c f alive same =>
      have tenure : ∀ n, (f n).tenure = n.tenure := fun n =>
        congrArg (fun ties => (ties.1, ties.2.1, ties.2.2.2)) (same n)
      have account : Clears [] 0 0 w (w.onCard c f) :=
        clears_keepCard (h.bounded alive) (fun n => congrArg (·.2.2.1) (same n)) fun n =>
          congrArg (fun ties => {(Emitter.set ties.1, ties.2.1)}) (same n)
      exact quiet <| h.quiet (tighter_onCard c fun n => congrArg Prod.fst (same n))
        (spares_onCard c tenure) account.conserves (Nat.le_refl _)
  | replaceCards d cards alive =>
      exact quiet <| h.quiet (tighter_replaceCards d w alive) (spares_replaceCards d cards w)
        (conserves_replaceCards d fun c mem => h.bounded (alive c mem))
        (onward_replaceCards d cards w).listeners
  | insertCard d c alive =>
      exact quiet <| h.quiet (tighter_insertCard d w alive) (spares_insertCard d c w)
        (conserves_insertCard d (h.bounded alive)) (onward_insertCard d c w).listeners
  | takeCard d c left kept parts =>
      exact quiet <| h.quiet (tighter_takeCard d c left kept parts)
        (spares_takeCard d c left kept w) (clears_takeCard parts).conserves
        (onward_takeCard d c left kept w).listeners
  | replaceCard d c index old alive found =>
      exact quiet <| h.quiet (tighter_replaceCard d index old w alive)
        (spares_replaceCard d c index old w) (conserves_replaceCard (h.bounded alive) found)
        (onward_replaceCard d c index old w).listeners
  | reorder d =>
      exact quiet <| h.quiet (tighter_reorder d w) (spares_onDeck d _ w)
        (clears_reorder d w).conserves (Nat.le_refl _)

end Accounted

end World

end StoryEngine
