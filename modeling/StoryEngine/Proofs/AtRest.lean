import StoryEngine.Proofs.Conserved.Editing

/-!
# What has been disposed of is released

Whatever is disposed of is released first, and to bind it again is refused.  There is one way round:
a quality set attaches its members without asking whether they have been disposed of, so a member
that was disposed of on its own is bound again with its set.

* `World.IsMember` — a node that is a member of some quality set.
* **`World.AtRest`** — what has been disposed of is not bound, but for members.
* `World.AtRest.onExpr`, `World.AtRest.onSet` and their like — what a change of one node has to
  respect.
* `World.AtRest.attachExpr`, `World.AtRest.disposeSet` and their like — each operation on nodes
  keeps it.
* `World.boundTo_member_unbindSet`, `World.boundTo_member_attachSet` — members go with their set.
-/

namespace StoryEngine.World

variable {w v : World}

/-! ## Nodes at rest -/

/-- A node that is a member of some quality set. -/
def IsMember (w : World) (n : NodeId) : Prop :=
  ∃ e q, n = .expr e ∧ e ∈ w.members q

/-- **What has been disposed of is not bound**, unless it is still a member of a quality set. -/
def AtRest (w : World) : Prop :=
  ∀ n, w.isDisposed n → w.boundTo n = none ∨ w.IsMember n

theorem AtRest.empty : World.empty.AtRest := by
  rintro (e | q | c | d) disposed
  all_goals cases disposed

/-- **What has to be seen to in an operation**: each node that is disposed of after it is not bound,
or a member, or where it was; and a set gives up only members that are not bound any more. -/
lemma AtRest.step (h : w.AtRest)
    (nodes : ∀ n, v.isDisposed n → v.boundTo n = none ∨ v.IsMember n ∨
      (w.isDisposed n ∧ v.boundTo n = w.boundTo n))
    (members : ∀ q, ∀ e ∈ w.members q, e ∈ v.members q ∨ v.boundTo (.expr e) = none) :
    v.AtRest := by
  intro n disposed
  rcases nodes n disposed with unbound | member | ⟨was, same⟩
  · exact .inl unbound
  · exact .inr member
  rcases h n was with unbound | ⟨e, q, rfl, mem⟩
  · exact .inl (same.trans unbound)
  · rcases members q e mem with still | unbound
    · exact .inr ⟨e, q, rfl, still⟩
    · exact .inl unbound

/-- Operations that leave all nodes as they are. -/
lemma AtRest.alike (h : w.AtRest) (expr : ∀ e, v.expr e = w.expr e) (set : ∀ q, v.set q = w.set q)
    (card : ∀ c, v.card c = w.card c) (deck : ∀ d, v.deck d = w.deck d) : v.AtRest := by
  have members : ∀ q, v.members q = w.members q := fun q => by rw [World.members, set]; rfl
  refine h.step (fun n disposed => .inr (.inr ?_)) fun q e mem => .inl (members q ▸ mem)
  cases n with
  | expr e =>
      rw [isDisposed, expr] at disposed
      exact ⟨disposed, by rw [boundTo, expr]; rfl⟩
  | set q =>
      rw [isDisposed, set] at disposed
      exact ⟨disposed, by rw [boundTo, set]; rfl⟩
  | card c =>
      rw [isDisposed, card] at disposed
      exact ⟨disposed, by rw [boundTo, card]; rfl⟩
  | deck d =>
      rw [isDisposed, deck] at disposed
      exact ⟨disposed, by rw [boundTo, deck]; rfl⟩

/-! ## Changes of one node -/

/-- A change of an expression. -/
lemma AtRest.onExpr (h : w.AtRest) (e : ExprId) {f : ExprNode → ExprNode}
    (ok : (f (w.expr e)).disposed → (f (w.expr e)).binding = none ∨ w.IsMember (.expr e) ∨
      ((w.expr e).disposed ∧ (f (w.expr e)).binding = (w.expr e).binding)) :
    (w.onExpr e f).AtRest := by
  refine h.step (fun n disposed => ?_) fun q e mem => .inl mem
  rcases n with other | q | c | d
  · by_cases here : e = other
    · subst here
      replace disposed : ((w.onExpr e f).expr e).disposed := disposed
      rw [boundTo, expr_onExpr, if_pos rfl]
      rw [expr_onExpr, if_pos rfl] at disposed
      rcases ok disposed with unbound | member | ⟨was, same⟩
      · exact .inl (by rw [unbound]; rfl)
      · exact .inr (.inl member)
      · exact .inr (.inr ⟨was, by rw [same]; rfl⟩)
    · replace disposed : ((w.onExpr e f).expr other).disposed := disposed
      rw [expr_onExpr, if_neg here] at disposed
      exact .inr (.inr ⟨disposed, by rw [boundTo, expr_onExpr, if_neg here]; rfl⟩)
  all_goals exact .inr (.inr ⟨disposed, rfl⟩)

/-- A change of an expression that keeps where it is bound. -/
lemma AtRest.keepExpr (h : w.AtRest) (e : ExprId) {f : ExprNode → ExprNode}
    (binding : ∀ n, (f n).binding = n.binding) (disposed : ∀ n, (f n).disposed = n.disposed) :
    (w.onExpr e f).AtRest :=
  h.onExpr e fun gone => .inr (.inr ⟨disposed _ ▸ gone, binding _⟩)

/-- A change of a quality set, which may give up members that are not bound any more. -/
lemma AtRest.onSet (h : w.AtRest) (q : SetId) {f : SetNode → SetNode}
    (ok : (f (w.set q)).disposed → (f (w.set q)).binding = none ∨
      ((w.set q).disposed ∧ (f (w.set q)).binding = (w.set q).binding))
    (members : ∀ e ∈ w.members q,
      e ∈ (f (w.set q)).members.map (·.expr) ∨ w.boundTo (.expr e) = none) :
    (w.onSet q f).AtRest := by
  refine h.step (fun n disposed => ?_) fun other e mem => ?_
  · rcases n with e | other | c | d
    · exact .inr (.inr ⟨disposed, rfl⟩)
    · by_cases here : q = other
      · subst here
        replace disposed : ((w.onSet q f).set q).disposed := disposed
        rw [boundTo, set_onSet, if_pos rfl]
        rw [set_onSet, if_pos rfl] at disposed
        rcases ok disposed with unbound | ⟨was, same⟩
        · exact .inl (by rw [unbound]; rfl)
        · exact .inr (.inr ⟨was, by rw [same]; rfl⟩)
      · replace disposed : ((w.onSet q f).set other).disposed := disposed
        rw [set_onSet, if_neg here] at disposed
        exact .inr (.inr ⟨disposed, by rw [boundTo, set_onSet, if_neg here]; rfl⟩)
    all_goals exact .inr (.inr ⟨disposed, rfl⟩)
  · rw [World.members, set_onSet]
    split
    · next here =>
        subst here
        exact members e mem
    · exact .inl mem

/-- A change of a quality set that keeps its members, and where it is bound. -/
lemma AtRest.keepSet (h : w.AtRest) (q : SetId) {f : SetNode → SetNode}
    (members : ∀ n, (f n).members = n.members) (binding : ∀ n, (f n).binding = n.binding)
    (disposed : ∀ n, (f n).disposed = n.disposed) : (w.onSet q f).AtRest := by
  refine h.onSet q (fun gone => .inr ⟨disposed _ ▸ gone, binding _⟩) fun e mem => .inl ?_
  rw [members]
  exact mem

/-- A change of a card. -/
lemma AtRest.onCard (h : w.AtRest) (c : CardId) {f : CardNode → CardNode}
    (ok : (f (w.card c)).disposed → (f (w.card c)).binding = none ∨
      ((w.card c).disposed ∧ (f (w.card c)).binding = (w.card c).binding)) :
    (w.onCard c f).AtRest := by
  refine h.step (fun n disposed => ?_) fun q e mem => .inl mem
  rcases n with e | q | other | d
  iterate 2 exact .inr (.inr ⟨disposed, rfl⟩)
  · by_cases here : c = other
    · subst here
      replace disposed : ((w.onCard c f).card c).disposed := disposed
      rw [boundTo, card_onCard, if_pos rfl]
      rw [card_onCard, if_pos rfl] at disposed
      rcases ok disposed with unbound | same
      · exact .inl unbound
      · exact .inr (.inr same)
    · replace disposed : ((w.onCard c f).card other).disposed := disposed
      rw [card_onCard, if_neg here] at disposed
      exact .inr (.inr ⟨disposed, by rw [boundTo, card_onCard, if_neg here]; rfl⟩)
  · exact .inr (.inr ⟨disposed, rfl⟩)

/-- A change of a card that keeps where it is bound. -/
lemma AtRest.keepCard (h : w.AtRest) (c : CardId) {f : CardNode → CardNode}
    (binding : ∀ n, (f n).binding = n.binding) (disposed : ∀ n, (f n).disposed = n.disposed) :
    (w.onCard c f).AtRest :=
  h.onCard c fun gone => .inr ⟨disposed _ ▸ gone, binding _⟩

/-- A change of a deck. -/
lemma AtRest.onDeck (h : w.AtRest) (d : DeckId) {f : DeckNode → DeckNode}
    (ok : (f (w.deck d)).disposed → (f (w.deck d)).binding = none ∨
      ((w.deck d).disposed ∧ (f (w.deck d)).binding = (w.deck d).binding)) :
    (w.onDeck d f).AtRest := by
  refine h.step (fun n disposed => ?_) fun q e mem => .inl mem
  rcases n with e | q | c | other
  iterate 3 exact .inr (.inr ⟨disposed, rfl⟩)
  · by_cases here : d = other
    · subst here
      replace disposed : ((w.onDeck d f).deck d).disposed := disposed
      rw [boundTo, deck_onDeck, if_pos rfl]
      rw [deck_onDeck, if_pos rfl] at disposed
      rcases ok disposed with unbound | ⟨was, same⟩
      · exact .inl (by rw [unbound]; rfl)
      · exact .inr (.inr ⟨was, by rw [same]; rfl⟩)
    · replace disposed : ((w.onDeck d f).deck other).disposed := disposed
      rw [deck_onDeck, if_neg here] at disposed
      exact .inr (.inr ⟨disposed, by rw [boundTo, deck_onDeck, if_neg here]; rfl⟩)

/-- A change of a deck that keeps where it is bound. -/
lemma AtRest.keepDeck (h : w.AtRest) (d : DeckId) {f : DeckNode → DeckNode}
    (binding : ∀ n, (f n).binding = n.binding) (disposed : ∀ n, (f n).disposed = n.disposed) :
    (w.onDeck d f).AtRest :=
  h.onDeck d fun gone => .inr ⟨disposed _ ▸ gone, binding _⟩

lemma AtRest.onStore (h : w.AtRest) (s : StateId) (f : Store → Store) : (w.onStore s f).AtRest :=
  h.alike (fun _ => rfl) (fun _ => rfl) (fun _ => rfl) fun _ => rfl

lemma AtRest.record (h : w.AtRest) (event : Event) : (w.record event).AtRest :=
  h.alike (fun _ => rfl) (fun _ => rfl) (fun _ => rfl) fun _ => rfl

lemma AtRest.withRoots (h : w.AtRest) (names : List (String × Object)) (held : List Handle) :
    (w.withRoots names held).AtRest :=
  h.alike (fun _ => rfl) (fun _ => rfl) (fun _ => rfl) fun _ => rfl

lemma AtRest.foldl {β : Type} (h : w.AtRest) (step : World → β → World) (bs : List β)
    (each : ∀ (v : World) b, v.AtRest → (step v b).AtRest) : (bs.foldl step w).AtRest := by
  induction bs generalizing w with
  | nil => exact h
  | cons b bs ih => exact ih (each w b h)

/-- To read a node leaves all nodes where they are bound. -/
lemma AtRest.cachesOnly (h : w.AtRest) (only : w.CachesOnly v) : v.AtRest := by
  refine h.step (fun n disposed => .inr (.inr ?_)) fun q e mem => .inl (only.members_eq q ▸ mem)
  cases n with
  | expr e =>
      rw [isDisposed, only.expr e] at disposed
      exact ⟨disposed, by rw [boundTo, only.expr e]; rfl⟩
  | set q =>
      rw [isDisposed, only.set q] at disposed
      exact ⟨disposed, by rw [boundTo, only.set q]; rfl⟩
  | card c =>
      rw [isDisposed, only.card_eq c] at disposed
      exact ⟨disposed, by rw [boundTo, only.card_eq c]; rfl⟩
  | deck d =>
      rw [isDisposed, only.deck_eq d] at disposed
      exact ⟨disposed, by rw [boundTo, only.deck_eq d]; rfl⟩

/-! ## Expressions -/

lemma AtRest.release (h : w.AtRest) (binding : Option Binding) : (w.release binding).AtRest := by
  cases binding with
  | none => exact h
  | some b => exact h.onStore _ _

lemma AtRest.unbindExpr (h : w.AtRest) (e : ExprId) : (w.unbindExpr e).AtRest :=
  (h.release _).onExpr e fun _ => .inl rfl

/-- **An expression is attached**, whether it has been disposed of or not, if it is a member. -/
lemma AtRest.attachExpr (h : w.AtRest) {e : ExprId} (s : StateId)
    (ok : (w.expr e).disposed → w.IsMember (.expr e)) : (w.attachExpr e s).AtRest := by
  refine ((h.unbindExpr e).onStore s _).onExpr e fun disposed => .inr (.inl ?_)
  obtain ⟨e', q, eq, mem⟩ := ok (by
    replace disposed : ((w.unbindExpr e).expr e).disposed := disposed
    rwa [(bindingsOnly_unbindExpr e w).expr e] at disposed)
  exact ⟨e', q, eq, (sameSets_unbindExpr e w).members_eq q ▸ mem⟩

lemma AtRest.disposeExpr (h : w.AtRest) (e : ExprId) : (w.disposeExpr e).AtRest :=
  (h.unbindExpr e).onExpr e fun _ => .inl (unbindExpr_binding e w)

lemma AtRest.forgetMember (h : w.AtRest) (m : Member) : (w.forgetMember m).AtRest :=
  h.keepExpr m.expr (fun _ => rfl) fun _ => rfl

lemma AtRest.unbindExprs (h : w.AtRest) (es : List ExprId) : (w.unbindExprs es).AtRest :=
  h.foldl _ es fun _ e hv => hv.unbindExpr e

lemma AtRest.attachExprs (h : w.AtRest) {es : List ExprId} (s : StateId)
    (members : ∀ e ∈ es, w.IsMember (.expr e)) : (w.attachExprs es s).AtRest := by
  induction es generalizing w with
  | nil => exact h
  | cons e rest ih =>
      refine ih (h.attachExpr s fun _ => members e List.mem_cons_self) fun other mem => ?_
      obtain ⟨e', q, eq, mem'⟩ := members other (List.mem_cons_of_mem _ mem)
      exact ⟨e', q, eq, (sameSets_attachExpr e s w).members_eq q ▸ mem'⟩

lemma boundTo_unbindExpr (e other : ExprId) (w : World) :
    (w.unbindExpr e).boundTo (.expr other) =
      if e = other then none else w.boundTo (.expr other) := by
  rw [World.unbindExpr, boundTo_onExpr]
  split
  · rfl
  · cases (w.expr e).binding <;> rfl

/-- Expressions are not bound once they are released. -/
lemma boundTo_unbindExprs {es : List ExprId} {e : ExprId} {w : World}
    (released : e ∈ es ∨ w.boundTo (.expr e) = none) :
    (w.unbindExprs es).boundTo (.expr e) = none := by
  induction es generalizing w with
  | nil => simpa [World.unbindExprs] using released
  | cons first rest ih =>
      refine ih (w := w.unbindExpr first) ?_
      rw [boundTo_unbindExpr]
      simp only [List.mem_cons] at released
      by_cases here : first = e
      · simp [here]
      · simpa [here, Ne.symm here] using released

/-! ## Quality sets -/

lemma AtRest.unbindSet (h : w.AtRest) (q : SetId) : (w.unbindSet q).AtRest := by
  refine AtRest.keepSet ?_ q (fun _ => rfl) (fun _ => rfl) fun _ => rfl
  refine AtRest.unbindExprs ?_ _
  exact (h.release _).onSet q (fun _ => .inl rfl) fun _ => .inl

/-- **The members of a set that is released are not bound.** -/
lemma boundTo_member_unbindSet {q : SetId} {e : ExprId} (mem : e ∈ w.members q) :
    (w.unbindSet q).boundTo (.expr e) = none := by
  refine boundTo_unbindExprs (.inl ?_)
  rw [World.members, set_onSet, if_pos rfl, (sameSets_release _ w).set_eq]
  exact mem

/-- What attaching a set comes to after its members are attached. -/
lemma attachSet_eq (q : SetId) (s : StateId) (w : World) :
    w.attachSet q s =
      (((w.unbindSet q).attachExprs ((w.unbindSet q).members q) s).subscribeState s
        (.set q)).1.onSet q
        fun n =>
          { n with
            binding := some ⟨s, (((w.unbindSet q).attachExprs ((w.unbindSet q).members q)
              s).subscribeState s (.set q)).2⟩
            cache := .dirty, gate := .fresh } := by
  unfold World.attachSet
  dsimp only

lemma AtRest.tieSet (h : w.AtRest) {q : SetId} (usable : (w.set q).disposed = false) (s : StateId)
    (b : Binding) :
    ((w.subscribeState s (.set q)).1.onSet q fun n =>
      { n with binding := some b, cache := .dirty, gate := .fresh }).AtRest :=
  (h.onStore s _).onSet q (fun disposed => absurd (usable.symm.trans disposed) nofun) fun _ => .inl

/-- A set that has not been disposed of is attached, after its members. -/
lemma AtRest.attachSet (h : w.AtRest) {q : SetId} (s : StateId)
    (usable : (w.set q).disposed = false) : (w.attachSet q s).AtRest := by
  have attached := (h.unbindSet q).attachExprs s
    fun e (mem : e ∈ (w.unbindSet q).members q) => ⟨e, q, rfl, mem⟩
  rw [attachSet_eq]
  refine attached.tieSet ?_ s _
  rw [(sameSets_attachExprs _ s _).set_eq, (bindingsOnly_unbindSet q w).set q]
  exact usable

lemma boundTo_tieSet (q : SetId) (e : ExprId) (s : StateId) (f : SetNode → SetNode) (w : World) :
    ((w.subscribeState s (.set q)).1.onSet q f).boundTo (.expr e) = w.boundTo (.expr e) := rfl

/-- **The members of a set that is attached are bound with it.** -/
lemma boundTo_member_attachSet {q : SetId} {e : ExprId} (mem : e ∈ w.members q) (s : StateId) :
    (w.attachSet q s).boundTo (.expr e) = some s := by
  have mem : e ∈ (w.unbindSet q).members q := by
    rw [(bindingsOnly_unbindSet q w).members_eq]
    exact mem
  rw [attachSet_eq, boundTo_tieSet]
  exact boundTo_attachExprs s (w.unbindSet q) (.inl mem)

lemma AtRest.bindSet (h : w.AtRest) (q : SetId) (s : StateId) : (w.bindSet q s).1.AtRest := by
  rw [World.bindSet]
  split
  · exact h
  · next usable => exact h.attachSet s (Bool.eq_false_iff.2 usable)

/-- Members are let go of: they are disposed of, and then nobody listens to them. -/
def letGo (ms : List Member) (w : World) : World :=
  ms.foldl (fun w m => w.forgetMember m) (ms.foldl (fun w m => w.disposeExpr m.expr) w)

lemma disposeSet_eq (q : SetId) (w : World) :
    w.disposeSet q =
      (((w.unbindSet q).onSet q fun n => { n with members := [] }).letGo
        ((w.unbindSet q).set q).members).onSet q fun n =>
          { n with listeners := n.listeners.clear, disposed := true } := rfl

lemma sameSets_letGo (ms : List Member) (w : World) : w.SameSets (w.letGo ms) :=
  (SameSets.foldl (fun w (m : Member) => sameSets_disposeExpr m.expr w) ms w).trans
    (SameSets.foldl (fun w m => sameSets_forgetMember m w) ms _)

lemma AtRest.letGo (h : w.AtRest) (ms : List Member) : (w.letGo ms).AtRest := by
  have disposed := h.foldl (fun w (m : Member) => w.disposeExpr m.expr) ms
    fun _ m hv => hv.disposeExpr m.expr
  exact disposed.foldl _ ms fun _ m hv => hv.forgetMember m

lemma AtRest.emptySet (h : w.AtRest) {q : SetId}
    (released : ∀ e ∈ w.members q, w.boundTo (.expr e) = none) :
    (w.onSet q fun n => { n with members := [] }).AtRest :=
  h.onSet q (fun disposed => .inr ⟨disposed, rfl⟩) fun e mem => .inr (released e mem)

lemma AtRest.retireSet (h : w.AtRest) {q : SetId} (unbound : (w.set q).binding = none) :
    (w.onSet q fun n => { n with listeners := n.listeners.clear, disposed := true }).AtRest :=
  h.onSet q (fun _ => .inl unbound) fun _ mem => .inl mem

/-- **A set gives up its members once they are released**, and then they are disposed of. -/
lemma AtRest.disposeSet (h : w.AtRest) (q : SetId) : (w.disposeSet q).AtRest := by
  have released : ∀ e ∈ (w.unbindSet q).members q, (w.unbindSet q).boundTo (.expr e) = none := by
    intro e mem
    rw [(bindingsOnly_unbindSet q w).members_eq] at mem
    exact boundTo_member_unbindSet mem
  rw [disposeSet_eq]
  refine (((h.unbindSet q).emptySet released).letGo _).retireSet ?_
  rw [(sameSets_letGo _ _).set_eq, set_onSet, if_pos rfl]
  exact unbindSet_binding q w

lemma sameCards_disposeSet (q : SetId) (w : World) : w.SameCards (w.disposeSet q) := by
  rw [disposeSet_eq]
  refine SameCards.trans ?_ (sameCards_onSet q _ _)
  refine SameCards.trans ?_ (sameSets_letGo _ _).sameCards
  exact (sameCards_unbindSet q w).trans (sameCards_onSet q _ _)

/-! Work on quality sets leaves decks as they are. -/

lemma sameCards_insertQuality (q : SetId) (cond : String) (w : World) :
    w.SameCards (w.insertQuality q cond).1 := by
  by_cases has : w.hasQuality q cond
  · rw [insertQuality_of_has has]
    exact .refl w
  · rw [insertQuality_of_lacks (by simpa using has)]
    refine SameCards.trans ?_ (sameCards_onSet q _ _)
    exact ((sameSets_newExpr cond _ w).trans (sameSets_onExpr _ _ _)).sameCards

lemma sameCards_addQuality (q : SetId) (cond : String) (w : World) :
    w.SameCards ((w.insertQuality q cond).1.invalidateSet q) :=
  (sameCards_insertQuality q cond w).trans (sameCards_onSet q _ _)

lemma sameCards_dropMember (q : SetId) (m : Member) (w : World) :
    w.SameCards (w.dropMember q m) := by
  refine SameCards.trans ?_ (sameCards_onSet q _ _)
  refine SameCards.trans (sameCards_onSet q (fun n => { n with members := n.members.erase m }) w) ?_
  exact ((sameSets_disposeExpr m.expr _).trans (sameSets_forgetMember m _)).sameCards

lemma newSet_decks (conds : List String) (state : Option StateId) (w : World) :
    (w.newSet conds state).1.decks = w.decks := by
  refine (foldl_decks (fun w cond => (sameCards_insertQuality ⟨_⟩ cond w).decks) conds _).trans ?_
  cases state with
  | none => rfl
  | some s => exact (sameCards_attachSet _ s _).decks

lemma newCard_decks (hash : CardHash) (content : String) (conds : List String)
    (state : Option StateId) (w : World) :
    (w.newCard hash content conds state).1.decks = w.decks := by
  rw [newCard_eq]
  cases state with
  | none => exact newSet_decks conds none w
  | some s => exact (attachCard_decks _ s _).trans (newSet_decks conds none w)

lemma replaceQualities_decks (c : CardId) (conds : List String) (w : World) :
    (w.replaceQualities c conds).1.decks = w.decks := by
  have turned : ((w.withNewSet c conds).turnTo c ⟨w.sets.size⟩).decks = w.decks :=
    (sameCards_bindSetWhere c _ _).decks.trans (newSet_decks conds none w)
  rw [replaceQualities_eq, exchangeSet_eq, (sameCards_onSet _ _ _).decks,
    (sameCards_disposeSet _ _).decks, turned]

/-! ## Cards -/

lemma unbindCard_binding (c : CardId) (w : World) : ((w.unbindCard c).card c).binding = none := by
  rw [unbindCard_eq, (sameCards_unbindSet _ _).card_eq, unbindOnly]
  split
  · exact congrArg CardNode.binding ((card_onCard _ _ _ _).trans (if_pos rfl))
  · next unbound => simpa using unbound

lemma AtRest.unbindCard (h : w.AtRest) (c : CardId) : (w.unbindCard c).AtRest := by
  rw [unbindCard_eq]
  refine AtRest.unbindSet ?_ _
  rw [unbindOnly]
  split
  · exact (h.onCard c fun _ => .inl rfl).record _
  · exact h

/-- A card that has not been disposed of is attached. -/
lemma AtRest.attachCard (h : w.AtRest) {c : CardId} (s : StateId)
    (usable : (w.card c).disposed = false) : (w.attachCard c s).AtRest := by
  have bound := (h.unbindCard c).bindSet ((w.unbindCard c).card c).qualities s
  have same := sameCards_bindSet ((w.unbindCard c).card c).qualities s (w.unbindCard c)
  have still : ((w.unbindCard c).card c).disposed = false := by
    rw [(bindingsOnly_unbindCard c w).card c]
    exact usable
  unfold World.attachCard
  dsimp only
  rcases done : (w.unbindCard c).bindSet ((w.unbindCard c).card c).qualities s with ⟨v, fault | _⟩
  all_goals rw [done] at bound same
  · exact bound.record _
  · refine (bound.onCard c fun disposed => ?_).record _
    replace disposed : (v.card c).disposed := disposed
    rw [same.card_eq] at disposed
    exact absurd (still.symm.trans disposed) nofun

lemma AtRest.bindCard (h : w.AtRest) (c : CardId) (s : StateId) : (w.bindCard c s).1.AtRest := by
  rw [World.bindCard]
  split
  · exact h
  · next usable =>
      dsimp only
      exact h.attachCard s (Bool.eq_false_iff.2 usable)

lemma AtRest.retireCard (h : w.AtRest) {c : CardId} (unbound : (w.card c).binding = none) :
    (w.onCard c fun n => { n with listeners := n.listeners.clear, disposed := true }).AtRest :=
  h.onCard c fun _ => .inl unbound

lemma AtRest.disposeCard (h : w.AtRest) (c : CardId) : (w.disposeCard c).AtRest := by
  refine ((h.unbindCard c).disposeSet _).retireCard ?_
  rw [(sameCards_disposeSet _ _).card_eq]
  exact unbindCard_binding c w

/-! ## Decks -/

lemma AtRest.bindOrSkip (h : w.AtRest) (s : StateId) (c : CardId) : (bindOrSkip s w c).AtRest := by
  have bound := h.bindCard c s
  rw [World.bindOrSkip]
  rcases done : w.bindCard c s with ⟨v, fault | _⟩
  all_goals rw [done] at bound
  · exact bound.record _
  · exact bound

lemma AtRest.bindAll (h : w.AtRest) (s : StateId) (cards : List CardId) :
    (cards.foldl (World.bindOrSkip s) w).AtRest :=
  h.foldl _ cards fun _ c hv => hv.bindOrSkip s c

lemma AtRest.unbindDeck (h : w.AtRest) (d : DeckId) : (w.unbindDeck d).AtRest := by
  rw [unbindDeck_eq]
  refine AtRest.foldl ?_ _ _ fun _ c hv => hv.unbindCard c
  rw [unbindDeckOnly]
  split
  · exact ((h.release _).onDeck d fun _ => .inl rfl).record _
  · exact h

lemma AtRest.tieDeck (h : w.AtRest) {d : DeckId} (usable : (w.deck d).disposed = false)
    (b : Binding) : (w.onDeck d fun n => { n with binding := some b, gate := .fresh }).AtRest :=
  h.onDeck d fun disposed => absurd (usable.symm.trans disposed) nofun

lemma AtRest.retireDeck (h : w.AtRest) {d : DeckId} (unbound : (w.deck d).binding = none) :
    (w.onDeck d fun n => { n with listeners := n.listeners.clear, disposed := true }).AtRest :=
  h.onDeck d fun _ => .inl unbound

/-- A deck that has not been disposed of is attached. -/
lemma AtRest.attachDeck (h : w.AtRest) {d : DeckId} (s : StateId)
    (usable : (w.deck d).disposed = false) : (w.attachDeck d s).AtRest := by
  have attached := (h.unbindDeck d).bindAll s ((w.unbindDeck d).deck d).cards
  refine ((attached.onStore s _).tieDeck ?_ _).record _
  rw [deck, World.onStore, foldl_decks (bindOrSkip_decks s), ← deck,
    (bindingsOnly_unbindDeck d w).deck d]
  exact usable

lemma AtRest.forgetEntry (h : w.AtRest) (entry : Entry) : (w.forgetEntry entry).AtRest :=
  h.keepCard _ (fun _ => rfl) fun _ => rfl

lemma AtRest.forgetEntries (h : w.AtRest) (entries : List Entry) :
    (entries.foldl (fun w entry => w.forgetEntry entry) w).AtRest :=
  h.foldl _ entries fun _ entry hv => hv.forgetEntry entry

lemma disposeCard_decks (c : CardId) (w : World) : (w.disposeCard c).decks = w.decks := by
  rw [World.disposeCard, World.onCard, (sameCards_disposeSet _ _).decks, unbindCard_decks]

lemma forgetEntry_decks (w : World) (entry : Entry) : (w.forgetEntry entry).decks = w.decks := rfl

lemma AtRest.disposeDeck (h : w.AtRest) (d : DeckId) : (w.disposeDeck d).AtRest := by
  have emptied := (h.unbindDeck d).keepDeck d (f := fun n => { n with entries := [] })
    (fun _ => rfl) fun _ => rfl
  have disposed := emptied.foldl (fun w (entry : Entry) => w.disposeCard entry.card)
    ((w.unbindDeck d).deck d).entries fun _ entry hv => hv.disposeCard entry.card
  refine ((disposed.forgetEntries ((w.unbindDeck d).deck d).entries).retireDeck ?_).record _
  rw [deck, foldl_decks forgetEntry_decks,
    foldl_decks fun w (entry : Entry) => disposeCard_decks entry.card w, ← deck, deck_onDeck,
    if_pos rfl]
  exact unbindDeck_binding d w

/-! ## Nodes of any kind -/

lemma AtRest.bindNode (h : w.AtRest) (n : NodeId) (s : StateId) : (w.bindNode n s).1.AtRest := by
  cases n with
  | expr e =>
      show (w.bindExpr e s).1.AtRest
      rw [bindExpr]
      split
      · exact h
      · next usable => exact h.attachExpr s fun disposed => absurd disposed usable
  | set q => exact h.bindSet q s
  | card c => exact h.bindCard c s
  | deck d =>
      show (w.bindDeck d s).1.AtRest
      rw [bindDeck]
      split
      · exact h
      · next usable => exact h.attachDeck s (Bool.eq_false_iff.2 usable)

lemma AtRest.unbindNode (h : w.AtRest) (n : NodeId) : (w.unbindNode n).AtRest := by
  cases n with
  | expr e => exact h.unbindExpr e
  | set q => exact h.unbindSet q
  | card c => exact h.unbindCard c
  | deck d => exact h.unbindDeck d

lemma AtRest.disposeNode (h : w.AtRest) (n : NodeId) : (w.disposeNode n).AtRest := by
  cases n with
  | expr e => exact h.disposeExpr e
  | set q => exact h.disposeSet q
  | card c => exact h.disposeCard c
  | deck d => exact h.disposeDeck d

/-! ## New nodes -/

lemma AtRest.addExpr (h : w.AtRest) (cond : String) :
    ({ w with exprs := w.exprs.add (.new cond) } : World).AtRest := by
  refine h.step (fun n disposed => .inr (.inr ?_)) fun q e mem => .inl mem
  cases n with
  | expr e =>
      rw [isDisposed, expr, Table.get_add] at disposed
      split at disposed
      · cases disposed
      · next old => exact ⟨disposed, by rw [boundTo, expr, Table.get_add, if_neg old]; rfl⟩
  | set q => exact ⟨disposed, rfl⟩
  | card c => exact ⟨disposed, rfl⟩
  | deck d => exact ⟨disposed, rfl⟩

lemma AtRest.newExpr (h : w.AtRest) (cond : String) (state : Option StateId) :
    (w.newExpr cond state).1.AtRest := by
  cases state with
  | none => exact h.addExpr cond
  | some s =>
      refine (h.addExpr cond).attachExpr s fun disposed => ?_
      rw [expr, Table.get_add, if_pos rfl] at disposed
      cases disposed

lemma AtRest.appendMember (h : w.AtRest) (q : SetId) (m : Member) :
    (w.onSet q fun n => { n with members := n.members ++ [m] }).AtRest := by
  refine h.onSet q (fun disposed => .inr ⟨disposed, rfl⟩) fun e mem => .inl ?_
  rw [List.map_append]
  exact List.mem_append_left _ mem

lemma AtRest.insertQuality (h : w.AtRest) (q : SetId) (cond : String) :
    (w.insertQuality q cond).1.AtRest := by
  by_cases has : w.hasQuality q cond
  · rwa [insertQuality_of_has has]
  · rw [insertQuality_of_lacks (by simpa using has)]
    have made := h.newExpr cond (w.setState q).toOption
    refine AtRest.appendMember ?_ q _
    exact made.keepExpr _ (fun _ => rfl) fun _ => rfl

lemma AtRest.newSet (h : w.AtRest) (conds : List String) (state : Option StateId) :
    (w.newSet conds state).1.AtRest := by
  have added : ({ w with sets := w.sets.add .new } : World).AtRest :=
    h.alike (fun _ => rfl) (set_addSet w) (fun _ => rfl) fun _ => rfl
  refine AtRest.foldl ?_ _ conds fun _ cond hv => hv.insertQuality ⟨w.sets.size⟩ cond
  cases state with
  | none => exact added
  | some s =>
      refine added.attachSet s ?_
      rw [set, Table.get_add, if_pos rfl]
      rfl

lemma AtRest.subscribeSet (h : w.AtRest) (q : SetId) (c : CardId) : (w.subscribeSet q c).1.AtRest :=
  h.keepSet q (fun _ => rfl) (fun _ => rfl) fun _ => rfl

lemma AtRest.addCard (h : w.AtRest) {card : CardNode} {cards : Table CardNode}
    (same : w.cards = cards) (usable : card.disposed = false) :
    ({ w with cards := cards.add card } : World).AtRest := by
  subst same
  refine h.step (fun n disposed => .inr (.inr ?_)) fun q e mem => .inl mem
  cases n with
  | expr e => exact ⟨disposed, rfl⟩
  | set q => exact ⟨disposed, rfl⟩
  | card c =>
      rw [isDisposed, World.card, Table.get_add] at disposed
      split at disposed
      · rw [usable] at disposed
        cases disposed
      · next old => exact ⟨disposed, by rw [boundTo, World.card, Table.get_add, if_neg old]; rfl⟩
  | deck d => exact ⟨disposed, rfl⟩

lemma AtRest.newCard (h : w.AtRest) (hash : CardHash) (content : String) (conds : List String)
    (state : Option StateId) : (w.newCard hash content conds state).1.AtRest := by
  have bare : (w.bareCard hash content conds).AtRest :=
    ((h.newSet conds none).subscribeSet _ _).addCard (newSet_cards conds w) rfl
  rw [newCard_eq]
  cases state with
  | none => exact bare
  | some s =>
      refine bare.attachCard s ?_
      rw [bareCard, card, Table.get_add, if_pos rfl]

lemma AtRest.enterCard (h : w.AtRest) (d : DeckId) (c : CardId) : (w.enterCard d c).1.AtRest :=
  h.keepCard c (fun _ => rfl) fun _ => rfl

lemma AtRest.enterCards (h : w.AtRest) (d : DeckId) (cards : List CardId) :
    (w.enterCards d cards).1.AtRest := by
  induction cards generalizing w with
  | nil => exact h
  | cons c rest ih => exact ih (h.enterCard d c)

lemma AtRest.setEntries (h : w.AtRest) (d : DeckId) (entries : DeckNode → List Entry) :
    (w.onDeck d fun n => { n with entries := entries n }).AtRest :=
  h.keepDeck d (fun _ => rfl) fun _ => rfl

lemma AtRest.emptyDeck (h : w.AtRest) (config : DeckConfig) : (w.emptyDeck config).AtRest := by
  refine h.step (fun n disposed => .inr (.inr ?_)) fun q e mem => .inl mem
  cases n with
  | expr e => exact ⟨disposed, rfl⟩
  | set q => exact ⟨disposed, rfl⟩
  | card c => exact ⟨disposed, rfl⟩
  | deck d =>
      rw [isDisposed, World.emptyDeck, World.deck, Table.get_add] at disposed
      split at disposed
      · cases disposed
      · next old =>
          refine ⟨disposed, ?_⟩
          rw [boundTo, World.emptyDeck, World.deck, Table.get_add, if_neg old]
          rfl

lemma AtRest.newDeck (h : w.AtRest) (config : DeckConfig) (cards : List CardId)
    (state : Option StateId) : (w.newDeck config cards state).1.AtRest := by
  have bare : (w.bareDeck config cards).AtRest :=
    ((h.emptyDeck config).enterCards _ cards).setEntries _ _
  rw [newDeck_eq]
  cases state with
  | none => exact bare
  | some s =>
      refine bare.attachDeck s ?_
      rw [bareDeck, deck_onDeck, if_pos rfl]
      show (World.deck _ _).disposed = false
      rw [deck, enterCards_decks, World.emptyDeck, Table.get_add, if_pos rfl]
      rfl

/-! ## Editing -/

lemma AtRest.rewriteExpr (h : w.AtRest) (e : ExprId) (cond : String) :
    (w.rewriteExpr e cond).AtRest := by
  refine AtRest.cachesOnly ?_ (cachesOnly_invalidateExpr e _)
  exact h.keepExpr e (fun _ => rfl) fun _ => rfl

/-- **A member is disposed of when it leaves its set.** -/
lemma AtRest.dropMember (h : w.AtRest) (q : SetId) (m : Member) : (w.dropMember q m).AtRest := by
  have commuted : w.dropMember q m =
      (((w.disposeExpr m.expr).onSet q fun n =>
        { n with members := n.members.erase m }).forgetMember m).invalidateSet q := by
    have released : (w.onSet q fun n => { n with members := n.members.erase m }).unbindExpr m.expr =
        (w.unbindExpr m.expr).onSet q fun n => { n with members := n.members.erase m } := by
      have same : (w.onSet q fun n => { n with members := n.members.erase m }).expr m.expr =
          w.expr m.expr := rfl
      rw [World.unbindExpr, World.unbindExpr, same]
      cases (w.expr m.expr).binding <;> rfl
    rw [World.dropMember, World.disposeExpr, released]
    rfl
  have unbound : (w.disposeExpr m.expr).boundTo (.expr m.expr) = none := by
    rw [World.disposeExpr, boundTo_onExpr, if_pos rfl]
    exact (congrArg (Option.map _) (unbindExpr_binding m.expr w)).trans rfl
  rw [commuted]
  refine AtRest.cachesOnly (AtRest.forgetMember ?_ m) (cachesOnly_invalidateSet q _)
  refine (h.disposeExpr m.expr).onSet q (fun disposed => .inr ⟨disposed, rfl⟩) fun e mem => ?_
  obtain ⟨m', mem', rfl⟩ := List.mem_map.1 mem
  by_cases here : m' = m
  · exact .inr (here ▸ unbound)
  · exact .inl (List.mem_map_of_mem ((List.mem_erase_of_ne here).2 mem'))

lemma AtRest.bindSetWhere (h : w.AtRest) (c : CardId) (q : SetId) :
    (w.bindSetWhere c q).1.AtRest := by
  rw [World.bindSetWhere]
  split
  · exact h.bindSet q _
  · exact h

lemma AtRest.exchangeSet (h : w.AtRest) (c : CardId) (q : SetId) : (w.exchangeSet c q).AtRest := by
  have turned : (w.turnTo c q).AtRest := (h.subscribeSet q c).keepCard c (fun _ => rfl) fun _ => rfl
  rw [exchangeSet_eq]
  exact (turned.disposeSet _).keepSet _ (fun _ => rfl) (fun _ => rfl) fun _ => rfl

lemma AtRest.replaceQualities (h : w.AtRest) (c : CardId) (conds : List String) :
    (w.replaceQualities c conds).1.AtRest := by
  have bound := (h.newSet conds none).bindSetWhere c (w.newSet conds none).2
  rw [World.replaceQualities]
  dsimp only
  rcases done : (w.newSet conds none).1.bindSetWhere c (w.newSet conds none).2 with ⟨v, fault | _⟩
  all_goals rw [done] at bound
  · exact bound
  · exact bound.exchangeSet c _

lemma AtRest.bindWhere (h : w.AtRest) (d : DeckId) (c : CardId) : (w.bindWhere d c).1.AtRest := by
  rw [World.bindWhere]
  split
  · exact h.bindCard c _
  · exact h

lemma AtRest.bindCardsWhere (h : w.AtRest) (d : DeckId) (cards : List CardId) :
    (w.bindCardsWhere d cards).AtRest := by
  rw [World.bindCardsWhere]
  split
  · exact h.bindAll _ cards
  · exact h

lemma AtRest.replaceCards (h : w.AtRest) (d : DeckId) (cards : List CardId) :
    (w.replaceCards d cards).AtRest := by
  have released := (h.setEntries d fun _ => []).foldl
    (fun w (entry : Entry) => w.unbindCard entry.card) (w.deck d).entries
    fun _ entry hv => hv.unbindCard entry.card
  have entered := (released.forgetEntries (w.deck d).entries).enterCards d cards
  exact ((entered.bindCardsWhere d cards).record _).setEntries d _

lemma AtRest.insertCard (h : w.AtRest) (d : DeckId) (c : CardId) : (w.insertCard d c).1.AtRest := by
  have bound := h.bindWhere d c
  rw [World.insertCard]
  rcases done : w.bindWhere d c with ⟨v, fault | _⟩
  all_goals rw [done] at bound
  · exact bound
  · exact ((bound.record _).enterCard d c).setEntries d _

lemma AtRest.takeCard (h : w.AtRest) (d : DeckId) (c : CardId) (gone kept : List Entry) :
    (w.takeCard d c gone kept).AtRest :=
  (((h.setEntries d fun _ => kept).unbindCard c).forgetEntries gone).record _

lemma AtRest.replaceCard (h : w.AtRest) (d : DeckId) (c : CardId) (index : Nat) (old : Entry) :
    (w.replaceCard d c index old).1.AtRest :=
  ((((h.enterCard d c).setEntries d _).unbindCard old.card).forgetEntry old).bindWhere d c

/-! ## Listeners and states -/

lemma AtRest.subscribeTo (h : w.AtRest) (em : Emitter) (l : ListenerId) :
    (w.subscribeTo em l).1.AtRest := by
  cases em with
  | state s => exact h.onStore s _
  | expr e => exact h.keepExpr e (fun _ => rfl) fun _ => rfl
  | set q => exact h.keepSet q (fun _ => rfl) (fun _ => rfl) fun _ => rfl
  | card c => exact h.keepCard c (fun _ => rfl) fun _ => rfl
  | deck d => exact h.keepDeck d (fun _ => rfl) fun _ => rfl
  | board b => exact h.alike (fun _ => rfl) (fun _ => rfl) (fun _ => rfl) fun _ => rfl

lemma AtRest.unsubscribeFrom (h : w.AtRest) (em : Emitter) (number : Nat) :
    (w.unsubscribeFrom em number).AtRest := by
  cases em with
  | state s => exact h.onStore s _
  | expr e => exact h.keepExpr e (fun _ => rfl) fun _ => rfl
  | set q => exact h.keepSet q (fun _ => rfl) (fun _ => rfl) fun _ => rfl
  | card c => exact h.keepCard c (fun _ => rfl) fun _ => rfl
  | deck d => exact h.keepDeck d (fun _ => rfl) fun _ => rfl
  | board b => exact h.alike (fun _ => rfl) (fun _ => rfl) (fun _ => rfl) fun _ => rfl

lemma AtRest.clearListeners (h : w.AtRest) (em : Emitter) : (w.clearListeners em).AtRest := by
  cases em with
  | state s => exact h.onStore s _
  | expr e => exact h.keepExpr e (fun _ => rfl) fun _ => rfl
  | set q => exact h.keepSet q (fun _ => rfl) (fun _ => rfl) fun _ => rfl
  | card c => exact h.keepCard c (fun _ => rfl) fun _ => rfl
  | deck d => exact h.keepDeck d (fun _ => rfl) fun _ => rfl
  | board b => exact h.alike (fun _ => rfl) (fun _ => rfl) (fun _ => rfl) fun _ => rfl

lemma AtRest.amend (h : w.AtRest) (s : StateId) (contents : Contents) :
    (w.amend s contents).AtRest := by
  have altered := (h.onStore s (·.commit contents)).record
    (.changed s (((w.onStore s (·.commit contents))).store s).revision)
  rw [World.amend]
  split
  · exact (altered.record _).record _
  · exact altered

lemma AtRest.enterBatch (h : w.AtRest) (s : StateId) : (w.enterBatch s).AtRest :=
  (h.onStore s _).record _

lemma AtRest.shut (h : w.AtRest) (s : StateId) : (w.shut s).AtRest := by
  have closed := (h.onStore s (·.close)).record (.closed s)
  rw [World.shut]
  split
  · exact (((closed.onStore s _).record _).record _).record _
  · exact closed

end StoryEngine.World
