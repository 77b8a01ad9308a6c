/-
# What belongs to which session

Handles, tokens and contexts are given out by name, and nothing in the
registry ties a name to a session: an action on one session may register,
cancel or reuse what another one made.  An `Ownership` says of every name
whose it is, and `Action.concerns` of an action that it acts on one session
only, by that session's names.

`Separated` is what such actions keep to: every handle in a table, every token
that something could cancel, and every callback that could run belongs to the
session that it is filed under.  A handle does not say whose it is, so the
sessions of the handles, in the order of their making, go along as a list.
`Untouched` is the other half: whatever an action of one session does, the
entries, handles and tokens of another stay as they are.  The two are proved
together (`TouchesOnly`), because a session that cancels something spares the
others only as long as what it cancels is its own.
-/
import DirectorySessions.Proofs.Registry.Effects

namespace DirectorySessions

/-! ## Owners -/

/-- Whose the names are.  A context may be common to all sessions. -/
structure Ownership where
  handle : String → SessionId
  token : String → SessionId
  context : String → Option SessionId

def Ownership.reads (o : Ownership) (s : SessionId) (name : String) : Bool :=
  decide ((o.context name).getD s = s)

mutual

/-- Does the action act on this session only, by its own names?  The callback
of a handle must, too. -/
def Action.concerns (o : Ownership) (s : SessionId) : Action → Bool
  | .makeHandle spec script =>
    decide (o.handle spec.name = s) && spec.token.all (fun t => decide (o.token t = s)) &&
      spec.context.all (o.reads s) && Action.allConcern o s script
  | .inspect h | .cancel h => decide (o.handle h = s)
  | .same a b => decide (o.handle a = s) && decide (o.handle b = s)
  | .cancelToken t => decide (o.token t = s)
  | .makeContext n _ => decide (o.context n = some s)
  | .register s' _ h => decide (s' = s) && decide (o.handle h = s)
  | .complete s' _ | .lookup s' _ | .snapshot s' | .outstanding s' | .abandon s' _ | .purge s'
  | .removeContext s' | .isBound s' | .closeSession s' | .terminate s' | .authorizeBind s' _ =>
    decide (s' = s)
  | .getContext s' _ _ n | .getRootContext s' _ n =>
    decide (s' = s) && n.all fun n => decide (o.context n = some s)
  | .setContext s' n => decide (s' = s) && o.reads s n
  | .openSession s' t => decide (s' = s) && t.all fun t => decide (o.token t = s)
  | .anonymousAllowed | .showConfig => true
  | .setFlag _ | .isEmpty | .shutdown => false

def Action.allConcern (o : Ownership) (s : SessionId) : List Action → Bool
  | [] => true
  | a :: as => a.concerns o s && Action.allConcern o s as

end

/-- The handle belongs to the session, by the list of the handles' sessions. -/
def Owns (os : List SessionId) (s : SessionId) (h : HandleId) : Prop := os[h.index]? = some s

/-- The session to which a token belongs.  A handle's own token is its session's. -/
def Ownership.holder (o : Ownership) (os : List SessionId) : TokenId → Option SessionId
  | .close s _ => some s
  | .own h => os[h.index]?
  | .named n => some (o.token n)

variable {o : Ownership} {os os' : List SessionId} {s s' S : SessionId} {h : HandleId}
  {t : TokenId}

theorem HandleId.index_inj {h h' : HandleId} : h.index = h'.index ↔ h = h' := by
  cases h
  cases h'
  exact ⟨congrArg HandleId.mk, congrArg HandleId.index⟩

theorem owns_append (ho : Owns os s h) (os' : List SessionId) : Owns (os ++ os') s h := by
  simp only [Owns] at ho ⊢
  rw [List.getElem?_append_left (List.getElem?_eq_some_iff.mp ho).1]
  exact ho

theorem owns_snoc_iff : Owns (os ++ [s]) S h ↔ Owns os S h ∨ h.index = os.length ∧ S = s := by
  simp only [Owns, List.getElem?_append]
  split
  · rename_i hlt
    constructor
    · exact .inl
    · rintro (ho | ⟨he, -⟩)
      · exact ho
      · omega
  · rename_i hge
    rw [List.getElem?_eq_none (by omega : os.length ≤ h.index), List.getElem?_singleton]
    split
    · constructor
      · intro he
        exact .inr ⟨by omega, (Option.some.inj he).symm⟩
      · rintro (he | ⟨-, rfl⟩)
        · cases he
        · rfl
    · constructor
      · intro he
        cases he
      · rintro (he | ⟨he, -⟩)
        · cases he
        · omega

theorem holder_append (ht : o.holder os t = some s) (os' : List SessionId) :
    o.holder (os ++ os') t = some s := by
  cases t with
  | own h => exact owns_append (h := h) ht os'
  | close s' n => exact ht
  | named n => exact ht

/-! ## Registries and names that are separated -/

/-- Everything in the registry belongs to the session that it is filed under. -/
structure Registry.Separated (o : Ownership) (os : List SessionId) (r : Registry) : Prop where
  owners : os.length = r.handles.length
  /-- A token that a handle made is cancelled only once there is the handle. -/
  made : ∀ h, .own h ∈ r.cancelled → r.Knows h
  records : ∀ s t, r.records.get? s = some t → ∃ n, t = .close s n
  requests : ∀ s id h, r.lookup s id = some h → Owns os s h
  tokens : ∀ s h x, r.handle? h = some x → Owns os s h → o.holder os x.token = some s
  callbacks : ∀ s h x c, r.handle? h = some x → Owns os s h → x.callback = some c →
    o.handle c.owner = s ∧ Action.allConcern o s c.script = true

/-- What the names refer to belongs to the session that the names do. -/
structure Names.Separated (o : Ownership) (os : List SessionId) (ns : Names) : Prop where
  handles : ∀ n h, ns.handles.get? n = some h → Owns os (o.handle n) h
  tokens : ∀ n t, ns.tokens.get? n = some t → o.holder os t = some (o.token n)

/-- What is the session's is the same in both registries. -/
structure Registry.Untouched (o : Ownership) (os : List SessionId) (S : SessionId)
    (r r' : Registry) : Prop where
  config : r'.config = r.config
  flag : r'.anonymousAllowed = r.anonymousAllowed
  record : r'.records.get? S = r.records.get? S
  opening : r'.openings.get? S = r.openings.get? S
  context : r'.contexts.get? S = r.contexts.get? S
  requests : r'.requests.get? S = r.requests.get? S
  handles : ∀ h, Owns os S h → r'.handle? h = r.handle? h
  tokens : ∀ t, o.holder os t = some S → (t ∈ r'.cancelled ↔ t ∈ r.cancelled)

structure Names.Untouched (o : Ownership) (S : SessionId) (ns ns' : Names) : Prop where
  handles : ∀ n, o.handle n = S → ns'.handles.get? n = ns.handles.get? n
  tokens : ∀ n, o.token n = S → ns'.tokens.get? n = ns.tokens.get? n
  contexts : ∀ n, o.reads S n = true → ns'.contexts.get? n = ns.contexts.get? n

/-! ## What touches one session only -/

/-- If the sessions are separated, they stay so, and only one of them is touched. -/
def Registry.TouchesOnly (o : Ownership) (os : List SessionId) (s : SessionId)
    (r r' : Registry) : Prop :=
  r.Separated o os → r'.Separated o os ∧ ∀ S, S ≠ s → r.Untouched o os S r'

/-- Only the entries of one session differ, and the counters. -/
structure Registry.Within (s : SessionId) (r r' : Registry) : Prop where
  config : r'.config = r.config
  flag : r'.anonymousAllowed = r.anonymousAllowed
  handles : r'.handles = r.handles
  cancelled : r'.cancelled = r.cancelled
  records : ∀ S, S ≠ s → r'.records.get? S = r.records.get? S
  openings : ∀ S, S ≠ s → r'.openings.get? S = r.openings.get? S
  contexts : ∀ S, S ≠ s → r'.contexts.get? S = r.contexts.get? S
  requests : ∀ S, S ≠ s → r'.requests.get? S = r.requests.get? S

/-- Only the counters differ, and the number of contexts made. -/
def Registry.SameButCounts (r r' : Registry) : Prop :=
  ∃ st n, r' = { r with stats := st, contextsMade := n }

namespace Registry

variable {r r' r'' : Registry} {id : RequestId}

theorem Untouched.rfl : r.Untouched o os S r :=
  ⟨Eq.refl _, Eq.refl _, Eq.refl _, Eq.refl _, Eq.refl _, Eq.refl _, fun _ _ => Eq.refl _,
    fun _ _ => Iff.rfl⟩

/-- What is untouched by what is done first, and by what is done then to all
that has been made since, is untouched. -/
theorem Untouched.trans (hu : r.Untouched o os S r') (hu' : r'.Untouched o (os ++ os') S r'') :
    r.Untouched o os S r'' where
  config := hu'.config.trans hu.config
  flag := hu'.flag.trans hu.flag
  record := hu'.record.trans hu.record
  opening := hu'.opening.trans hu.opening
  context := hu'.context.trans hu.context
  requests := hu'.requests.trans hu.requests
  handles := fun h ho => (hu'.handles h (owns_append ho os')).trans (hu.handles h ho)
  tokens := fun t ht => (hu'.tokens t (holder_append ht os')).trans (hu.tokens t ht)

theorem TouchesOnly.rfl : r.TouchesOnly o os s r := fun hp => ⟨hp, fun _ _ => .rfl⟩

theorem TouchesOnly.trans (hd : r.TouchesOnly o os s r') (hd' : r'.TouchesOnly o os s r'') :
    r.TouchesOnly o os s r'' := by
  intro hp
  obtain ⟨hp₁, hu₁⟩ := hd hp
  obtain ⟨hp₂, hu₂⟩ := hd' hp₁
  refine ⟨hp₂, ?_⟩
  intro S hS
  have hu₃ := hu₂ S hS
  rw [← List.append_nil os] at hu₃
  exact (hu₁ S hS).trans hu₃

/-- An update of the entries of one session, as long as what comes in is its own. -/
theorem Within.touchesOnly (hw : r.Within s r')
    (hrec : ∀ t, r'.records.get? s = some t → r.records.get? s = some t ∨ ∃ n, t = .close s n)
    (hreq : ∀ id h, r'.lookup s id = some h → r.lookup s id = some h ∨ Owns os s h) :
    r.TouchesOnly o os s r' := by
  intro hp
  have hh : ∀ h, r'.handle? h = r.handle? h := handle?_congr hw.handles
  have hl : ∀ S, S ≠ s → ∀ id, r'.lookup S id = r.lookup S id := by
    intro S hS id
    simp only [lookup, requestsOf, hw.requests S hS]
  refine ⟨⟨?_, ?_, ?_, ?_, ?_, ?_⟩, ?_⟩
  · rw [hw.handles]
    exact hp.owners
  · intro h hin
    rw [hw.cancelled] at hin
    exact (knows_congr hw.handles h).mpr (hp.made h hin)
  · intro S t ht
    by_cases hS : S = s
    · subst hS
      exact (hrec t ht).elim (hp.records S t) fun ho => ho
    · rw [hw.records S hS] at ht
      exact hp.records S t ht
  · intro S id h hin
    by_cases hS : S = s
    · subst hS
      exact (hreq id h hin).elim (hp.requests S id h) fun ho => ho
    · rw [hl S hS] at hin
      exact hp.requests S id h hin
  · intro S h x hx
    rw [hh] at hx
    exact hp.tokens S h x hx
  · intro S h x c hx
    rw [hh] at hx
    exact hp.callbacks S h x c hx
  · intro S hS
    exact ⟨hw.config, hw.flag, hw.records S hS, hw.openings S hS, hw.contexts S hS,
      hw.requests S hS, fun h _ => hh h, fun t _ => by rw [hw.cancelled]⟩

theorem SameButCounts.touchesOnly (hr : r.SameButCounts r') : r.TouchesOnly o os s r' := by
  obtain ⟨st, n, rfl⟩ := hr
  refine Within.touchesOnly (by constructor <;> intros <;> rfl) ?_ ?_
  · intro t ht
    exact .inl ht
  · intro id h hl
    exact .inl hl

/-! ## What the operations do -/

theorem dropContext_touchesOnly (r : Registry) (s : SessionId) :
    r.TouchesOnly o os s (r.dropContext s) := by
  refine Within.touchesOnly ?_ (fun _ => .inl) fun _ _ => .inl
  constructor <;> intros <;> simp_all [dropContext, Table.get?_erase, eq_comm]

theorem handle?_snoc (r : Registry) (x : Handle) (h : HandleId) :
    ({ r with handles := r.handles ++ [x] } : Registry).handle? h =
      if h = r.nextHandle then some x else r.handle? h := by
  have he : h = r.nextHandle ↔ h.index = r.handles.length := HandleId.index_inj.symm
  simp only [handle?, List.getElem?_append, List.getElem?_singleton, he]
  split
  · rw [if_neg (by omega)]
  · split
    · rw [if_pos (by omega)]
    · rw [if_neg (by omega), List.getElem?_eq_none (by omega)]

end Registry

namespace Names

variable {ns ns' ns'' : Names}

theorem Untouched.rfl : ns.Untouched o S ns :=
  ⟨fun _ _ => Eq.refl _, fun _ _ => Eq.refl _, fun _ _ => Eq.refl _⟩

theorem Untouched.trans (hu : ns.Untouched o S ns') (hu' : ns'.Untouched o S ns'') :
    ns.Untouched o S ns'' where
  handles := fun n hn => (hu'.handles n hn).trans (hu.handles n hn)
  tokens := fun n hn => (hu'.tokens n hn).trans (hu.tokens n hn)
  contexts := fun n hn => (hu'.contexts n hn).trans (hu.contexts n hn)

theorem nameToken_separated {n : String} (hp : ns.Separated o os)
    (ht : o.holder os t = some (o.token n)) :
    ({ ns with tokens := ns.tokens.insert n t } : Names).Separated o os := by
  refine ⟨hp.handles, ?_⟩
  intro n' t' hn
  rw [Table.get?_insert] at hn
  split at hn
  · rename_i he
    cases hn
    rw [← he]
    exact ht
  · exact hp.tokens n' t' hn

end Names

/-! ## Scenes -/

structure Scene.Separated (o : Ownership) (os : List SessionId) (w : Scene) : Prop where
  registry : w.registry.Separated o os
  names : w.names.Separated o os

/-- The notes of the callbacks of the session's handles. -/
def Scene.notesOf (o : Ownership) (s : SessionId) (w : Scene) : List CallbackNote :=
  w.notes.filter fun n => decide (o.handle n.owner = s)

structure Scene.Untouched (o : Ownership) (os : List SessionId) (S : SessionId)
    (w w' : Scene) : Prop where
  registry : w.registry.Untouched o os S w'.registry
  names : w.names.Untouched o S w'.names
  notes : w'.notesOf o S = w.notesOf o S

namespace Scene

variable {w w' w'' : Scene}

theorem Untouched.rfl : w.Untouched o os S w := ⟨.rfl, .rfl, Eq.refl _⟩

theorem Untouched.trans (hu : w.Untouched o os S w')
    (hu' : w'.Untouched o (os ++ os') S w'') : w.Untouched o os S w'' :=
  ⟨hu.registry.trans hu'.registry, hu.names.trans hu'.names, hu'.notes.trans hu.notes⟩

end Scene

end DirectorySessions
