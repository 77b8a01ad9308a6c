/-
# Callbacks that keep to themselves

A callback may carry out any action.  Here are the operations whose callbacks keep to
themselves: they look at things, make handles and contexts, cancel tokens, and return, fail or
panic, but they write nothing to the tables and the counters and cancel no handle that has not
fired (`Machine.Quiet`).

Of a purge with such callbacks it can be said what it comes to without saying in which order
it goes through its handles (`Scene.Spends`): what has fired afterwards is what had fired and
what was outstanding, and the tokens that are cancelled then are those which were, those of the
handles that fired, and those which the callbacks of these name.  It does not matter either
who fires a handle that stands under several numbers, since the purge counts the handles that
fire on its way (`Registry.fresh`).
-/
import DirectorySessions.Proofs.Registry.Calm
import DirectorySessions.Proofs.Registry.Purging
import Mathlib.Data.Set.Card

namespace DirectorySessions

/-- Does the action no more than look at the registry, set the flag, make something or cancel
a token? -/
def Action.keepsOut : Action → Bool
  | .setFlag _ | .makeContext .. | .makeHandle .. | .inspect _ | .same .. | .cancelToken _
  | .lookup .. | .snapshot _ | .outstanding _ | .anonymousAllowed | .isBound _ | .isEmpty
  | .showConfig => true
  | _ => false

/-- Does the action do anything else, other than to cancel a handle that has fired? -/
def Action.disturbs (w : Scene) : Action → Bool
  | .cancel name => ((w.handleOf? name).bind w.registry.armed?).isSome
  | a => !a.keepsOut

theorem Action.disturbs_of_keepsOut {w : Scene} {a : Action} (h : a.keepsOut = true) :
    a.disturbs w = false := by
  cases a <;> first | rfl | cases h

namespace Machine

/-- Is a callback about to do so? -/
def disturbs (m : Machine) : Bool :=
  match m.levels, m.task with
  | _ :: _, .perform a => a.disturbs m.scene
  | _, _ => false

/-- From here to the end all callbacks keep to themselves. -/
def Quiet (m : Machine) : Prop := ∀ y ∈ m.path, y.disturbs = false

variable {m m' : Machine} {es : List Event}

theorem Quiet.steps (h : m.Quiet) (t : Steps m es m') : m'.Quiet := by
  obtain ⟨ms, hms⟩ := path_of_steps t
  intro y hy
  refine h y ?_
  rw [hms]
  exact List.mem_append_right _ hy

theorem Quiet.step (h : m.Quiet) (hs : m.step = some m') : m'.Quiet := h.steps (.single hs)

end Machine

/-! ## What is fired and cancelled -/

namespace Registry

variable {r r' r'' : Registry} {h x : HandleId} {y : Handle} {t : TokenId}

/-- Registries with the same tables and counters. -/
structure SameBooks (r r' : Registry) : Prop extends r.SameTables r' where
  stats : r'.stats = r.stats

theorem sameBooks_refl (r : Registry) : r.SameBooks r := ⟨sameTables_refl r, rfl⟩

theorem SameBooks.trans (h : r.SameBooks r') (h' : r'.SameBooks r'') : r.SameBooks r'' :=
  ⟨h.toSameTables.trans h'.toSameTables, h'.stats.trans h.stats⟩

theorem fire_sameBooks (r : Registry) (h : HandleId) : r.SameBooks (r.fire h) :=
  ⟨fire_sameTables r h, (fire_books r h).1⟩

theorem cancelToken_sameBooks (r : Registry) (t : TokenId) : r.SameBooks (r.cancelToken t) :=
  ⟨cancelToken_sameTables r t, (cancelToken_books r t).1⟩

theorem hasFired_iff (hy : r.handle? x = some y) : r.HasFired x ↔ y.fired = true := by
  simp only [HasFired, hy, Option.some.injEq, exists_eq_left']

theorem hasFired_congr (hh : r'.handles = r.handles) (x : HandleId) :
    r'.HasFired x ↔ r.HasFired x := by
  simp only [HasFired, handle?_congr hh]

theorem hasFired_append_iff (hf : y.fired = false) (hh : r'.handles = r.handles ++ [y]) :
    r'.HasFired x ↔ r.HasFired x := by
  refine ⟨?_, hasFired_of_append hh⟩
  rintro ⟨z, hz, hfired⟩
  simp only [handle?, hh, List.getElem?_append] at hz
  split at hz
  · exact ⟨z, hz, hfired⟩
  · rw [List.mem_singleton.mp (List.mem_of_getElem? hz), hf] at hfired
    cases hfired

theorem hasFired_fire_iff (hk : r.Knows h) : (r.fire h).HasFired x ↔ r.HasFired x ∨ x = h := by
  constructor
  · rintro ⟨y, hy, hfired⟩
    rw [handle?_fire] at hy
    split at hy
    · next he => exact Or.inr he.symm
    · exact Or.inl ⟨y, hy, hfired⟩
  · rintro (hx | rfl)
    · exact hasFired_fire hx
    · exact fire_hasFired hk

/-- How many handles have fired in the second registry and not in the first. -/
noncomputable def fresh (r r' : Registry) : Nat := {x | r'.HasFired x ∧ ¬ r.HasFired x}.ncard

theorem finite_hasFired (r : Registry) : {x | r.HasFired x}.Finite := by
  refine ((Set.finite_lt_nat r.handles.length).image HandleId.mk).subset ?_
  rintro x ⟨y, hy, -⟩
  exact ⟨x.index, knows_iff.mpr ⟨y, hy⟩, rfl⟩

theorem fresh_congr (h : ∀ x, r'.HasFired x ↔ r.HasFired x) : r.fresh r' = 0 := by
  have hnone : {x | r'.HasFired x ∧ ¬ r.HasFired x} = ∅ := by
    ext x
    simp [h x]
  rw [fresh, hnone, Set.ncard_empty]

theorem fresh_trans (h : ∀ x, r.HasFired x → r'.HasFired x)
    (h' : ∀ x, r'.HasFired x → r''.HasFired x) : r.fresh r'' = r.fresh r' + r'.fresh r'' := by
  have hsplit : {x | r''.HasFired x ∧ ¬ r.HasFired x} =
      {x | r'.HasFired x ∧ ¬ r.HasFired x} ∪ {x | r''.HasFired x ∧ ¬ r'.HasFired x} := by
    ext x
    constructor
    · rintro ⟨hx, hn⟩
      by_cases hx' : r'.HasFired x
      · exact Or.inl ⟨hx', hn⟩
      · exact Or.inr ⟨hx, hx'⟩
    · rintro (⟨hx, hn⟩ | ⟨hx, hn⟩)
      · exact ⟨h' x hx, hn⟩
      · exact ⟨hx, fun hx' => hn (h x hx')⟩
  have hapart : Disjoint {x | r'.HasFired x ∧ ¬ r.HasFired x}
      {x | r''.HasFired x ∧ ¬ r'.HasFired x} := by
    rw [Set.disjoint_left]
    rintro x ⟨hx, -⟩ ⟨-, hx'⟩
    exact hx' hx
  rw [fresh, hsplit, Set.ncard_union_eq hapart (r'.finite_hasFired.subset fun x hx => hx.1)
    (r''.finite_hasFired.subset fun x hx => hx.1)]
  rfl

theorem fresh_of_one (h : ∀ z, r'.HasFired z ↔ r.HasFired z ∨ z = x) (hn : ¬ r.HasFired x) :
    r.fresh r' = 1 := by
  have hone : {z | r'.HasFired z ∧ ¬ r.HasFired z} = {x} := by
    ext z
    constructor
    · rintro ⟨hz, hn'⟩
      exact ((h z).mp hz).resolve_left hn'
    · rintro rfl
      exact ⟨(h z).mpr (Or.inr rfl), hn⟩
  rw [fresh, hone, Set.ncard_singleton]

end Registry

namespace Scene

variable {w w' w'' : Scene} {F F' : HandleId → Prop} {C C' : TokenId → Prop} {h x : HandleId}
  {y : Handle} {a : Action}

/-- What the second scene has over the first one is that these handles have fired, that these
tokens are cancelled, and that there are further handles, which have not fired.  Names of
tokens stand for the same tokens. -/
structure Spends (w w' : Scene) (F : HandleId → Prop) (C : TokenId → Prop) : Prop where
  kept : w.registry.Kept w'.registry
  fired : ∀ x, w'.registry.HasFired x ↔ w.registry.HasFired x ∨ F x
  cancelled : ∀ t, t ∈ w'.registry.cancelled ↔ t ∈ w.registry.cancelled ∨ C t
  tokens : ∀ n, (w'.tokenOf n).1 = (w.tokenOf n).1

theorem Spends.grows (h : w.Spends w' F C) : w.registry.Grows w'.registry :=
  ⟨h.kept, fun hx => (h.fired _).mpr (Or.inl hx), fun ht => (h.cancelled _).mpr (Or.inl ht)⟩

theorem Spends.trans (h : w.Spends w' F C) (h' : w'.Spends w'' F' C') :
    w.Spends w'' (fun x => F x ∨ F' x) (fun t => C t ∨ C' t) := by
  refine ⟨Registry.kept_trans h.kept h'.kept, ?_, ?_, fun n => (h'.tokens n).trans (h.tokens n)⟩
  · intro x
    rw [h'.fired, h.fired, or_assoc]
  · intro t
    rw [h'.cancelled, h.cancelled, or_assoc]

theorem Spends.congr (h : w.Spends w' F C)
    (hF : ∀ x, w.registry.HasFired x ∨ F x ↔ w.registry.HasFired x ∨ F' x)
    (hC : ∀ t, t ∈ w.registry.cancelled ∨ C t ↔ t ∈ w.registry.cancelled ∨ C' t) :
    w.Spends w' F' C' :=
  ⟨h.kept, fun x => (h.fired x).trans (hF x), fun t => (h.cancelled t).trans (hC t), h.tokens⟩

theorem fresh_trans (h : w.Spends w' F C) (h' : w'.Spends w'' F' C') :
    w.registry.fresh w''.registry =
      w.registry.fresh w'.registry + w'.registry.fresh w''.registry :=
  Registry.fresh_trans (fun _ => h.grows.fired) fun _ => h'.grows.fired

/-! ## What is carried out at once -/

theorem tokenOf_fst (w : Scene) (n : String) :
    (w.tokenOf n).1 = (w.names.tokens.get? n).getD (.named n) := by
  simp only [tokenOf]
  split <;> next h => rw [h]; rfl

theorem tokenOf_congr (h : w'.names.tokens = w.names.tokens) (n : String) :
    (w'.tokenOf n).1 = (w.tokenOf n).1 := by
  rw [tokenOf_fst, tokenOf_fst, h]

theorem tokenOf_tokenOf (w : Scene) (n n' : String) :
    ((w.tokenOf n).2.tokenOf n').1 = (w.tokenOf n').1 := by
  rw [tokenOf_fst, tokenOf_fst]
  simp only [tokenOf]
  split
  · rfl
  · next h =>
    simp only [nameToken, Table.get?_insert]
    split
    · next he => rw [← he, h]; rfl
    · rfl

theorem spends_of_same (hh : w'.registry.handles = w.registry.handles)
    (hc : w'.registry.cancelled = w.registry.cancelled)
    (hn : w'.names.tokens = w.names.tokens) :
    w.Spends w' (fun _ => False) fun _ => False := by
  refine ⟨Registry.kept_of_handles hh, ?_, ?_, tokenOf_congr hn⟩
  · intro x
    rw [Registry.hasFired_congr hh, or_false]
  · intro t
    rw [hc, or_false]

theorem spends_refl (w : Scene) : w.Spends w (fun _ => False) fun _ => False :=
  spends_of_same rfl rfl rfl

theorem makeHandle_spends (w : Scene) (spec : HandleSpec) (script : List Action) :
    w.registry.SameBooks (w.makeHandle spec script).registry ∧
      w.Spends (w.makeHandle spec script) (fun _ => False) fun _ => False := by
  have made : ∀ {v : Scene} {z : Handle} {hs : Table String HandleId}, z.fired = false →
      v.registry = w.registry → (∀ n, (v.tokenOf n).1 = (w.tokenOf n).1) →
        w.registry.SameBooks { v.registry with handles := v.registry.handles ++ [z] } ∧
        w.Spends ⟨{ v.registry with handles := v.registry.handles ++ [z] },
          { v.names with handles := hs }, v.notes⟩ (fun _ => False) fun _ => False := by
    intro v z hs hf hr hn
    rw [hr]
    refine ⟨⟨⟨rfl, rfl, rfl⟩, rfl⟩, Registry.kept_of_append rfl, ?_, ?_, ?_⟩
    · intro x
      rw [Registry.hasFired_append_iff hf rfl, or_false]
    · intro t
      rw [or_false]
    · intro n
      rw [← hn]
      refine tokenOf_congr ?_ n
      rfl
  simp only [makeHandle]
  cases spec.token with
  | none => exact made rfl rfl fun _ => rfl
  | some name => exact made rfl (Machine.tokenOf_registry w name) (tokenOf_tokenOf w name)

theorem cancelToken_spends (w : Scene) (name : String) :
    w.registry.SameBooks ((w.tokenOf name).2.registry.cancelToken (w.tokenOf name).1) ∧
      w.Spends ((w.tokenOf name).2.withRegistry
        ((w.tokenOf name).2.registry.cancelToken (w.tokenOf name).1)) (fun _ => False)
          (· = (w.tokenOf name).1) := by
  rw [Machine.tokenOf_registry]
  have hh := Machine.cancelToken_handles w.registry (w.tokenOf name).1
  refine ⟨Registry.cancelToken_sameBooks _ _, Registry.kept_of_handles hh, ?_, ?_, ?_⟩
  · intro x
    rw [or_false]
    exact Registry.hasFired_congr hh x
  · intro t
    exact Registry.mem_cancelled_cancelToken.trans or_comm
  · intro n
    rw [← tokenOf_tokenOf w name n]
    refine tokenOf_congr ?_ n
    rfl

theorem answer?_quiet {x : Reply} (h : w.answer? a = some (w', x)) (ha : a.disturbs w = false) :
    w.registry.SameBooks w'.registry ∧
      w.Spends w' (fun _ => False) fun t => ∃ n, a = .cancelToken n ∧ (w.tokenOf n).1 = t := by
  have same : ∀ {v : Scene}, (∀ n, a ≠ .cancelToken n) → w.registry.SameBooks v.registry →
      w.Spends v (fun _ => False) (fun _ => False) → w.registry.SameBooks v.registry ∧
        w.Spends v (fun _ => False) fun t => ∃ n, a = .cancelToken n ∧ (w.tokenOf n).1 = t := by
    intro v hn hb hs
    refine ⟨hb, hs.congr (fun _ => Iff.rfl) ?_⟩
    intro t
    simp [hn]
  cases a with
  | cancelToken n =>
      cases h
      obtain ⟨hb, hs⟩ := cancelToken_spends w n
      refine ⟨hb, hs.congr (fun _ => Iff.rfl) ?_⟩
      intro t
      simp [eq_comm]
  | makeHandle spec script =>
      cases h
      obtain ⟨hb, hs⟩ := makeHandle_spends w spec script
      exact same (fun _ => Action.noConfusion) hb hs
  | makeContext n c =>
      cases h
      refine same (fun _ => Action.noConfusion) ?_ (spends_of_same ?_ ?_ ?_)
      · rw [Machine.nameContext_registry]
        exact ⟨⟨rfl, rfl, rfl⟩, rfl⟩
      · rw [Machine.nameContext_registry]
        rfl
      · rw [Machine.nameContext_registry]
        rfl
      · exact nameContext_tokens _ _ _
  | setFlag b =>
      cases h
      exact same (fun _ => Action.noConfusion) ⟨⟨rfl, rfl, rfl⟩, rfl⟩
        (spends_of_same rfl rfl rfl)
  | inspect _ | same _ _ | lookup _ _ | snapshot _ | outstanding _ | anonymousAllowed | isBound _
  | isEmpty | showConfig =>
      cases h
      exact same (fun _ => Action.noConfusion) (Registry.sameBooks_refl _) (spends_refl w)
  | cancel _ => cases h
  | _ => cases ha

/-- What is not carried out at once and disturbs nothing is the cancelling of a handle that has
fired, or of none. -/
theorem perform_quiet (ha : a.disturbs w = false) :
    w.registry.SameBooks (w.perform a).1.registry ∧
      w.Spends (w.perform a).1 (fun _ => False)
        fun t => ∃ n, a = .cancelToken n ∧ (w.tokenOf n).1 = t := by
  cases hans : w.answer? a with
  | some y =>
      have hs : Machine.step ⟨w, .perform a, []⟩ = some ⟨y.1, .reply y.2, []⟩ := by
        simp only [Machine.step, hans]
      rw [Machine.perform_of_steps (.single hs)]
      exact answer?_quiet hans ha
  | none =>
      have hsame : ∃ name, a = .cancel name := by
        cases a with
        | cancel name => exact ⟨name, rfl⟩
        | register _ _ _ | complete _ _ | abandon _ _ | purge _ | getContext _ _ _ _
        | getRootContext _ _ _ | setContext _ _ | removeContext _ | openSession _ _
        | closeSession _ | terminate _ | shutdown | authorizeBind _ _ => cases ha
        | _ => cases hans
      obtain ⟨name, rfl⟩ := hsame
      have hstill : (w.perform (.cancel name)).1 = w := by
        cases hg : w.handleOf? name with
        | none =>
            have hs : Machine.step ⟨w, .perform (.cancel name), []⟩ =
                some ⟨w, .reply .nothing, []⟩ := by
              simp only [Machine.step, answer?, Machine.begin, hg]
            rw [Machine.perform_of_steps (.single hs)]
        | some h =>
            simp only [Action.disturbs, hg, Option.bind_some, Option.isSome_eq_false_iff,
              Option.isNone_iff_eq_none] at ha
            rw [perform_cancel hg, cancelHandle_unarmed ha]
      rw [hstill]
      refine ⟨Registry.sameBooks_refl _, (spends_refl w).congr (fun _ => Iff.rfl) ?_⟩
      intro t
      simp

/-! ## Callbacks -/

theorem performAll_quiet (w : Scene) (l : Level) (ls : List Level)
    (hq : (Machine.proceed w l ls).Quiet) :
    w.registry.SameBooks (w.performAll l.pending l.replies).1.registry ∧
      w.Spends (w.performAll l.pending l.replies).1 (fun _ => False)
        fun t => ∃ n, .cancelToken n ∈ l.pending ∧ (w.tokenOf n).1 = t := by
  obtain ⟨why, c, id, fired, pending, replies⟩ := l
  induction pending generalizing w replies with
  | nil =>
      refine ⟨Registry.sameBooks_refl _, (spends_refl w).congr (fun _ => Iff.rfl) ?_⟩
      intro t
      simp
  | cons a as ih =>
      -- the first action is carried out, and the callback goes on with the others
      have hfirst : a.disturbs w = false :=
        hq ⟨w, .perform a, ⟨why, c, id, fired, as, replies⟩ :: ls⟩
          (Machine.mem_path_self (fun x he => by cases he) w _)
      obtain ⟨es, t⟩ := Machine.steps_perform w a (⟨why, c, id, fired, as, replies⟩ :: ls)
      have hrest := hq.steps (t.trans (.single rfl))
      obtain ⟨hb, hs⟩ := perform_quiet hfirst
      obtain ⟨hb', hs'⟩ := ih (w.perform a).1 _ hrest
      refine ⟨hb.trans hb', (hs.trans hs').congr ?_ ?_⟩
      · intro x
        simp
      · intro t
        simp only [hs.tokens, List.mem_cons, or_and_right, exists_or, eq_comm (b := a)]

/-! ## Cancelling -/

/-- To cancel the handle would cancel the token: it has not fired, and the token is its own or
is named by an action of its callback. -/
def Reaches (w : Scene) (h : HandleId) (t : TokenId) : Prop :=
  ∃ y, w.registry.handle? h = some y ∧ y.fired = false ∧
    (y.token = t ∨
      ∃ c n, y.callback = some c ∧ .cancelToken n ∈ c.script ∧ (w.tokenOf n).1 = t)

theorem reaches_iff {t : TokenId} (hy : w.registry.handle? h = some y) :
    w.Reaches h t ↔ y.fired = false ∧ (y.token = t ∨
      ∃ c n, y.callback = some c ∧ .cancelToken n ∈ c.script ∧ (w.tokenOf n).1 = t) := by
  simp only [Reaches, hy, Option.some.injEq, exists_eq_left']

theorem fire_spends (hy : w.registry.handle? h = some y) (hf : y.fired = false) :
    w.Spends (w.withRegistry (w.registry.fire h)) (· = h) (y.token = ·) := by
  refine ⟨Registry.fire_kept _ _, ?_, ?_, ?_⟩
  · intro x
    exact Registry.hasFired_fire_iff (Registry.knows_iff.mpr ⟨y, hy⟩)
  · intro t
    refine Registry.mem_cancelled_fire.trans (or_congr_right ?_)
    simp [Registry.armed?, hy, hf]
  · refine tokenOf_congr ?_
    rfl

theorem Spends.reaches {t : TokenId} (hs : w.Spends w' F C) (hk : w.registry.Knows x) :
    w'.Reaches x t ↔ w.Reaches x t ∧ ¬ F x := by
  obtain ⟨y, hy⟩ := Registry.knows_iff.mp hk
  obtain ⟨f, hy'⟩ := hs.kept x y hy
  have hfired := hs.fired x
  rw [Registry.hasFired_iff hy, Registry.hasFired_iff hy'] at hfired
  rw [reaches_iff hy, reaches_iff hy']
  simp only [hs.tokens, Bool.eq_false_iff, ne_eq, hfired]
  tauto

/-- These handles are cancelled, with what cancelling them reaches, and these tokens besides. -/
def Cancels (w w' : Scene) (F : HandleId → Prop) (T : TokenId → Prop) : Prop :=
  w.Spends w' F fun t => T t ∨ ∃ x, F x ∧ w.Reaches x t

theorem Cancels.trans {T T' : TokenId → Prop} (h : w.Cancels w' F T) (h' : w'.Cancels w'' F' T')
    (hk : ∀ x, F' x → w.registry.Knows x) :
    w.Cancels w'' (fun x => F x ∨ F' x) fun t => T t ∨ T' t := by
  refine (Spends.trans h h').congr (fun _ => Iff.rfl) ?_
  intro t
  refine or_congr_right ?_
  constructor
  · rintro ((ht | ⟨x, hx, ht⟩) | ht | ⟨x, hx, ht⟩)
    · exact Or.inl (Or.inl ht)
    · exact Or.inr ⟨x, Or.inl hx, ht⟩
    · exact Or.inl (Or.inr ht)
    · exact Or.inr ⟨x, Or.inr hx, ((Spends.reaches h (hk x hx)).mp ht).1⟩
  · rintro ((ht | ht) | ⟨x, hx, ht⟩)
    · exact Or.inl (Or.inl ht)
    · exact Or.inr (Or.inl ht)
    · by_cases hfirst : F x
      · exact Or.inl (Or.inr ⟨x, hfirst, ht⟩)
      · have hlater := hx.resolve_left hfirst
        exact Or.inr (Or.inr ⟨x, hlater, (Spends.reaches h (hk x hlater)).mpr ⟨ht, hfirst⟩⟩)

/-- Which they are counts, and not how they are told. -/
theorem Cancels.of_iff {T T' : TokenId → Prop} (h : w.Cancels w' F T) (hF : ∀ x, F x ↔ F' x)
    (hT : ∀ t, T t ↔ T' t) : w.Cancels w' F' T' := by
  have he : F = F' := funext fun x => propext (hF x)
  have ht : T = T' := funext fun t => propext (hT t)
  rwa [← he, ← ht]

theorem cancels_of_same (hh : w'.registry.handles = w.registry.handles)
    (hc : w'.registry.cancelled = w.registry.cancelled)
    (hn : w'.names.tokens = w.names.tokens) :
    w.Cancels w' (fun _ => False) fun _ => False := by
  refine (spends_of_same hh hc hn).congr (fun _ => Iff.rfl) ?_
  intro t
  simp

/-- A handle whose callback keeps to itself fires, and that counts if it had not. -/
theorem cancelHandle_quiet (why : Purpose) (ls : List Level) (hk : w.registry.Knows h)
    (hq : Machine.Quiet ⟨w, .cancel h why, ls⟩) :
    w.registry.SameBooks (w.cancelHandle h).1.registry ∧
      w.Cancels (w.cancelHandle h).1 (· = h) (fun _ => False) ∧
      w.registry.fresh (w.cancelHandle h).1.registry =
        if (w.cancelHandle h).2.counts then 1 else 0 := by
  obtain ⟨y, hy⟩ := Registry.knows_iff.mp hk
  have hfired := Registry.hasFired_iff hy
  have hreaches := fun t => reaches_iff (t := t) hy
  cases hf : y.fired with
  | true =>
      have hs : w.cancelHandle h = (w, .already) := by
        simp only [cancelHandle, hy, hf, if_true]
      rw [hs]
      refine ⟨Registry.sameBooks_refl _, (spends_refl w).congr ?_ ?_,
        Registry.fresh_congr fun _ => Iff.rfl⟩
      · intro x
        rw [or_false, iff_self_or]
        rintro rfl
        exact hfired.mpr hf
      · intro t
        simp [hreaches, hf]
  | false =>
      have hn : ¬ w.registry.HasFired h := by
        rw [hfired, hf]
        exact Bool.false_ne_true
      have hfires := fire_spends hy hf
      cases hc : y.callback with
      | none =>
          have hs : w.cancelHandle h = (w.withRegistry (w.registry.fire h), .fired) := by
            simp only [cancelHandle, hy, hf, Bool.false_eq_true, if_false, hc]
          rw [hs]
          refine ⟨Registry.fire_sameBooks _ _, hfires.congr (fun _ => Iff.rfl) ?_,
            Registry.fresh_of_one hfires.fired hn⟩
          intro t
          simp [hreaches, hf, hc]
      | some c =>
          have hs : w.cancelHandle h = ((w.withRegistry (w.registry.fire h)).callBack c y.requestId
              ((w.registry.fire h).isCancelled y.token), c.ending.result) := by
            simp only [cancelHandle, hy, hf, Bool.false_eq_true, if_false, hc]
          have hstep : Machine.step ⟨w, .cancel h why, ls⟩ =
              some (Machine.proceed (w.withRegistry (w.registry.fire h))
                ⟨why, c, y.requestId, (w.registry.fire h).isCancelled y.token, c.script, []⟩
                ls) := by
            simp only [Machine.step, Machine.cancelHandle, hy, hf, Bool.false_eq_true, if_false, hc]
          obtain ⟨hb, hcalls⟩ := performAll_quiet _ _ ls (hq.step hstep)
          -- the note of the callback is no part of the registry
          generalize hv : (w.withRegistry (w.registry.fire h)).performAll _ _ = v at hb hcalls
          have hall : w.Cancels (w.cancelHandle h).1 (· = h) fun _ => False := by
            have hnote : v.1.Spends (w.cancelHandle h).1 (fun _ => False) fun _ => False := by
              rw [hs, callBack, hv]
              exact spends_of_same rfl rfl rfl
            refine ((hfires.trans hcalls).trans hnote).congr ?_ ?_
            · intro x
              simp
            · intro t
              simp [hreaches, hf, hc, hfires.tokens]
          refine ⟨?_, hall, ?_⟩
          · rw [hs, callBack, hv]
            exact (Registry.fire_sameBooks _ _).trans hb
          · rw [Registry.fresh_of_one hall.fired hn, hs, Machine.counts_result, if_pos rfl]

/-- Whatever the order, all handles fire, and the purge counts those that had not fired. -/
theorem cancelAll_quiet {s : SessionId} {hs : List HandleId} (n : Nat) (next : Teardown)
    (hk : ∀ x ∈ hs, w.registry.Knows x) (hq : Machine.Quiet ⟨w, .purging s hs n next, []⟩) :
    w.registry.SameBooks (w.cancelAll hs n).1.registry ∧
      w.Cancels (w.cancelAll hs n).1 (· ∈ hs) (fun _ => False) ∧
      (w.cancelAll hs n).2 = n + w.registry.fresh (w.cancelAll hs n).1.registry := by
  induction hs generalizing w n with
  | nil =>
      refine ⟨Registry.sameBooks_refl _,
        (cancels_of_same rfl rfl rfl).of_iff ?_ fun _ => Iff.rfl, ?_⟩
      · intro x
        simp
      · exact (congrArg (n + ·) (Registry.fresh_congr fun _ => Iff.rfl)).symm
  | cons h hs ih =>
      have hq₁ : Machine.Quiet ⟨w, .cancel h (.purge s hs n next), []⟩ := hq.step rfl
      obtain ⟨hb, hc, hfresh⟩ := cancelHandle_quiet _ [] (hk h List.mem_cons_self) hq₁
      obtain ⟨es, t⟩ := Machine.steps_cancel w h (.purge s hs n next) []
      have hk' : ∀ x ∈ hs, w.registry.Knows x := fun x hx => hk x (List.mem_cons_of_mem _ hx)
      obtain ⟨hb', hc', hcount⟩ := ih (w := (w.cancelHandle h).1)
        (if (w.cancelHandle h).2.counts then n + 1 else n)
        (fun x hx => Registry.knows_of_kept (Spends.kept hc) (hk' x hx))
        (hq₁.steps (t.trans (.single rfl)))
      refine ⟨hb.trans hb', (hc.trans hc' hk').of_iff ?_ ?_, ?_⟩
      · intro x
        exact List.mem_cons.symm
      · intro t
        exact or_self_iff
      · show (Scene.cancelAll _ hs _).2 = n + w.registry.fresh (Scene.cancelAll _ hs _).1.registry
        rw [hcount, fresh_trans hc hc', hfresh]
        split <;> omega

end Scene

end DirectorySessions
