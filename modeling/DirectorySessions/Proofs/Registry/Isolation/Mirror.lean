/-
# A session with and without the others

`Mirrored` compares two scenes, one in which many sessions have been at work
and one in which only a single session has: all that is the session's in the
first is in the second, its record, its close tokens, its context, its
outstanding requests, its handles with their tokens and callbacks, its names,
and the notes of its callbacks.  What another session does to the first scene
does not change that (`Mirrored.untouched`), and every operation, done by the
session to both, keeps it.

The numbers of handles and the identity of contexts are not the session's
affair, and neither is a name that another session gave to a context that both
use; `blind` leaves them out of replies and notes.
-/
import DirectorySessions.Proofs.Registry.Isolation.Correspondence

namespace DirectorySessions

variable {o : Ownership} {os os' : List SessionId} {s S T : SessionId} {h k : HandleId}
  {t t' : TokenId}

/-! ## What there is to see -/

/-- A token without the number of its handle. -/
def TokenId.blind : TokenId → TokenId
  | .own _ => .own ⟨0⟩
  | t => t

def Handle.blind (x : Handle) : Handle :=
  { x with token := x.token.blind, context := x.context.map fun c => ⟨0, c.content⟩ }

/-- A reply without numbers, and without the names of contexts. -/
def Reply.blind : Reply → Reply
  | .context c _ => .context c .fresh
  | .replaced l => .replaced (l.map fun _ => .fresh)
  | .removed l => .removed (l.map fun _ => .fresh)
  | .info i => .info ⟨i.handle.blind, i.tokenFired, i.context.map fun _ => .fresh⟩
  | x => x

def CallbackNote.blind (n : CallbackNote) : CallbackNote :=
  { n with replies := n.replies.map Reply.blind }

/-- Request maps with the session's requests under the same numbers. -/
inductive RequestMap.Mirrored (os : List SessionId) (S : SessionId) :
    RequestMap → RequestMap → Prop
  | accepting {hs ks : Table RequestId HandleId} (hc : hs.Corresponds (Pair os S) ks) :
      Mirrored os S (.accepting hs) (.accepting ks)
  | closing : Mirrored os S .closing .closing

/-- All that is the session's in one registry is in the other. -/
structure Registry.Mirrored (o : Ownership) (os : List SessionId) (S : SessionId)
    (r q : Registry) : Prop where
  config : r.config = q.config
  flag : r.anonymousAllowed = q.anonymousAllowed
  record : r.records.get? S = q.records.get? S
  opening : r.openings.get? S = q.openings.get? S
  context : (r.contexts.get? S).map SharedContext.content =
    (q.contexts.get? S).map SharedContext.content
  requests : Option.Rel (RequestMap.Mirrored os S) (r.requests.get? S) (q.requests.get? S)
  handles : ∀ h k, Pair os S h k → Option.Rel (HandlePair o os S) (r.handle? h) (q.handle? k)
  tokens : ∀ t t', TokenPair o os S t t' → (t ∈ r.cancelled ↔ t' ∈ q.cancelled)

/-- The names that the session uses refer to the same in both. -/
structure Names.Mirrored (o : Ownership) (os : List SessionId) (S : SessionId)
    (ns ms : Names) : Prop where
  handles : ∀ n, o.handle n = S → Option.Rel (Pair os S) (ns.handles.get? n) (ms.handles.get? n)
  tokens : ∀ n, o.token n = S →
    Option.Rel (TokenPair o os S) (ns.tokens.get? n) (ms.tokens.get? n)
  contexts : ∀ n, o.reads S n = true → (ns.contexts.get? n).map SharedContext.content =
    (ms.contexts.get? n).map SharedContext.content

/-- All that is the session's in one scene is in the other. -/
structure Scene.Mirrored (o : Ownership) (os : List SessionId) (S : SessionId)
    (w v : Scene) : Prop where
  registry : w.registry.Mirrored o os S v.registry
  names : w.names.Mirrored o os S v.names
  notes : (w.notesOf o S).map CallbackNote.blind = (v.notesOf o S).map CallbackNote.blind

theorem RequestMap.Mirrored.append {m m' : RequestMap} (hm : m.Mirrored os S m')
    (os' : List SessionId) : m.Mirrored (os ++ os') S m' := by
  cases hm with
  | accepting hc => exact .accepting (hc.imp fun _ _ hp => hp.append os')
  | closing => exact .closing

namespace Registry

variable {r r' q q' : Registry} {id : RequestId}

theorem Mirrored.untouched (hm : r.Mirrored o os S q) (hu : r.Untouched o os S r') (hT : T ≠ S)
    (n : Nat) : r'.Mirrored o (os ++ List.replicate n T) S q where
  config := hu.config.trans hm.config
  flag := hu.flag.trans hm.flag
  record := hu.record.trans hm.record
  opening := hu.opening.trans hm.opening
  context := (congrArg _ hu.context).trans hm.context
  requests := by
    rw [hu.requests]
    exact optionRel_imp hm.requests fun _ _ hr => hr.append _
  handles := by
    intro h k hp
    have hp := hp.of_append_other hT
    rw [hu.handles h hp.owns]
    exact optionRel_imp (hm.handles h k hp) fun _ _ hx => hx.append _
  tokens := by
    intro t t' hp
    have hp := hp.of_append_other hT
    exact (hu.tokens t hp.holder).trans (hm.tokens t t' hp)

/-! ## Operations on both sides -/

theorem Mirrored.of_sameButCounts (hm : r.Mirrored o os S q) (hr : r.SameButCounts r')
    (hq : q.SameButCounts q') : r'.Mirrored o os S q' := by
  obtain ⟨st, n, rfl⟩ := hr
  obtain ⟨st', n', rfl⟩ := hq
  exact { hm with }

theorem Mirrored.cancelToken (hm : r.Mirrored o os S q) (ht : TokenPair o os S t t') :
    (r.cancelToken t).Mirrored o os S (q.cancelToken t') := by
  have hiff := hm.tokens t t' ht
  simp only [Registry.cancelToken]
  by_cases hin : t ∈ r.cancelled
  · rw [if_pos hin, if_pos (hiff.mp hin)]
    exact hm
  · rw [if_neg hin, if_neg fun h => hin (hiff.mpr h)]
    refine { hm with tokens := ?_ }
    intro u u' hu
    rw [List.mem_cons, List.mem_cons, hu.eq_iff ht, hm.tokens u u' hu]

theorem Mirrored.mark {x y : Handle} (hm : r.Mirrored o os S q) (hp : Pair os S h k)
    (hx : r.handle? h = some x) (hy : q.handle? k = some y) (hxy : HandlePair o os S x y) :
    ({ r with handles := r.handles.set h.index { x with fired := true } } : Registry).Mirrored
      o os S { q with handles := q.handles.set k.index { y with fired := true } } := by
  refine { hm with handles := ?_ }
  intro h' k' hp'
  have hlt : h.index < r.handles.length := (List.getElem?_eq_some_iff.mp hx).1
  have hlt' : k.index < q.handles.length := (List.getElem?_eq_some_iff.mp hy).1
  simp only [handle?, List.getElem?_set, HandleId.index_inj, ← hp.eq_iff hp']
  by_cases he : h = h'
  · rw [if_pos he, if_pos he, if_pos hlt, if_pos hlt']
    exact .some hxy.fire
  · rw [if_neg he, if_neg he]
    exact hm.handles h' k' hp'

theorem Mirrored.fire (hm : r.Mirrored o os S q) (hp : Pair os S h k) :
    (r.fire h).Mirrored o os S (q.fire k) := by
  have hx := hm.handles h k hp
  simp only [Registry.fire]
  generalize hxe : r.handle? h = a, hye : q.handle? k = b at hx
  cases hx with
  | none => exact hm
  | @some x y hxy =>
      simp only [← hxy.fired]
      split
      · exact hm
      · have hc := hm.cancelToken hxy.token
        have hx' : (r.cancelToken x.token).handle? h = some x := by
          rw [handle?_congr (Machine.cancelToken_handles r _)]
          exact hxe
        have hy' : (q.cancelToken y.token).handle? k = some y := by
          rw [handle?_congr (Machine.cancelToken_handles q _)]
          exact hye
        have hmark := hc.mark hp hx' hy' hxy
        rw [Machine.cancelToken_handles, Machine.cancelToken_handles] at hmark
        exact hmark

theorem Mirrored.make {x y : Handle} (hm : r.Mirrored o os S q) (hr : r.Separated o os)
    (hq : q.Separated o (ofSession S os)) (hxy : HandlePair o (os ++ [S]) S x y) :
    ({ r with handles := r.handles ++ [x] } : Registry).Mirrored o (os ++ [S]) S
      { q with handles := q.handles ++ [y] } := by
  have hlr : r.nextHandle = ⟨os.length⟩ := congrArg HandleId.mk hr.owners.symm
  have hlq : q.nextHandle = ⟨(ofSession S os).length⟩ := congrArg HandleId.mk hq.owners.symm
  refine { hm with requests := ?_, handles := ?_, tokens := ?_ }
  · exact optionRel_imp hm.requests fun _ _ hr => hr.append _
  · intro h k hp
    rw [handle?_snoc, handle?_snoc, hlr, hlq]
    rcases pair_snoc hp with hp | ⟨rfl, rfl⟩
    · have hne : h ≠ ⟨os.length⟩ := by
        rintro rfl
        exact Nat.lt_irrefl _ (List.getElem?_eq_some_iff.mp hp.owns).1
      have hne' : k ≠ ⟨(ofSession S os).length⟩ := by
        rintro rfl
        exact Nat.lt_irrefl _ hp.lt
      rw [if_neg hne, if_neg hne']
      exact optionRel_imp (hm.handles h k hp) fun _ _ hx => hx.append _
    · rw [if_pos rfl, if_pos rfl]
      exact .some hxy
  · intro t t' ht
    cases ht with
    | close n => exact hm.tokens _ _ (.close n)
    | named hn => exact hm.tokens _ _ (.named hn)
    | @own h k hp =>
        rcases pair_snoc hp with hp | ⟨rfl, rfl⟩
        · exact hm.tokens _ _ (.own hp)
        · -- neither side has the new handle's token, let alone has cancelled it
          constructor
          · intro hin
            have := hr.made _ hin
            rw [Knows, ← hr.owners] at this
            exact absurd this (Nat.lt_irrefl _)
          · intro hin
            have := hq.made _ hin
            rw [Knows, ← hq.owners] at this
            exact absurd this (Nat.lt_irrefl _)

theorem Mirrored.openSession (hm : r.Mirrored o os S q) :
    (r.openSession S).1 = (q.openSession S).1 ∧
      (r.openSession S).2.Mirrored o os S (q.openSession S).2 := by
  simp only [Registry.openSession, hm.opening]
  refine ⟨trivial, { hm with record := ?_, opening := ?_ }⟩
  · simp only [Table.get?_insert, if_true]
  · simp only [Table.get?_insert, if_true]

theorem tokenPair_of_record (hr : r.Separated o os) (ht : r.records.get? S = some t) :
    TokenPair o os S t t := by
  obtain ⟨n, rfl⟩ := hr.records S t ht
  exact .close n

theorem Mirrored.signalClose? (hm : r.Mirrored o os S q) (hr : r.Separated o os) :
    Option.Rel (Registry.Mirrored o os S) (r.signalClose? S) (q.signalClose? S) := by
  simp only [Registry.signalClose?, ← hm.record]
  cases ht : r.records.get? S with
  | none => exact .none
  | some t => exact .some (hm.cancelToken (tokenPair_of_record hr ht))

theorem Mirrored.setContext {c c' : SharedContext} (hm : r.Mirrored o os S q)
    (hc : c.content = c'.content) : (r.setContext S c).Mirrored o os S (q.setContext S c') := by
  refine { hm with context := ?_ }
  simp only [Registry.setContext, Table.get?_insert, if_true, Option.map_some, hc]

theorem Mirrored.dropContext (hm : r.Mirrored o os S q) :
    (r.dropContext S).Mirrored o os S (q.dropContext S) := by
  refine { hm with context := ?_ }
  simp only [Registry.dropContext, Table.get?_erase, if_true]

theorem Mirrored.dropRecord (hm : r.Mirrored o os S q) (hr : r.Separated o os) :
    (r.dropRecord S).Mirrored o os S (q.dropRecord S) := by
  simp only [Registry.dropRecord, ← hm.record]
  split
  · rename_i t ht
    refine { hm.cancelToken (tokenPair_of_record hr ht) with record := ?_ }
    simp only [Table.get?_erase, if_true]
  · exact hm

theorem Mirrored.forget (hm : r.Mirrored o os S q) (hr : r.Separated o os) :
    (r.forget S).Mirrored o os S (q.forget S) :=
  hm.dropContext.dropRecord (dropContext_touchesOnly r S hr).1

/-! ## Outstanding requests on both sides -/

theorem Mirrored.requestsOf (hm : r.Mirrored o os S q) :
    (r.requestsOf S).Corresponds (Pair os S) (q.requestsOf S) := by
  have hreq := hm.requests
  simp only [Registry.requestsOf]
  generalize r.requests.get? S = a, q.requests.get? S = b at hreq
  cases hreq with
  | none => exact Table.corresponds_empty
  | some hmap =>
      cases hmap with
      | accepting hc => exact hc
      | closing => exact Table.corresponds_empty

theorem isClosing_eq (hm : r.Mirrored o os S q) : r.isClosing S = q.isClosing S := by
  have hreq := hm.requests
  simp only [isClosing]
  generalize r.requests.get? S = a, q.requests.get? S = b at hreq
  cases hreq with
  | none => rfl
  | some hmap => cases hmap <;> rfl

theorem Mirrored.lookup (hm : r.Mirrored o os S q) (id : RequestId) :
    Option.Rel (Pair os S) (r.lookup S id) (q.lookup S id) :=
  hm.requestsOf.get? id

theorem Mirrored.setRequests {hs ks : Table RequestId HandleId} (hm : r.Mirrored o os S q)
    (hc : hs.Corresponds (Pair os S) ks) :
    (r.setRequests S hs).Mirrored o os S (q.setRequests S ks) := by
  refine { hm with requests := ?_ }
  simp only [Registry.setRequests, Table.get?_insert, if_true]
  exact .some (.accepting hc)

theorem Mirrored.register (hm : r.Mirrored o os S q) (hp : Pair os S h k)
    (hr : r.register S id h = .ok r') :
    ∃ q', q.register S id k = .ok q' ∧ r'.Mirrored o os S q' := by
  have hc := not_closing_of_register hr
  rw [register_ok hc] at hr
  cases hr
  refine ⟨_, register_ok ((isClosing_eq hm).symm.trans hc) id k, ?_⟩
  exact (hm.setRequests (hm.requestsOf.insert id hp)).of_sameButCounts ⟨_, _, rfl⟩ ⟨_, _, rfl⟩

theorem Mirrored.takeOut (hm : r.Mirrored o os S q) (id : RequestId) :
    (r.setRequests S ((r.requestsOf S).erase id)).Mirrored o os S
      (q.setRequests S ((q.requestsOf S).erase id)) :=
  hm.setRequests (hm.requestsOf.erase id)

theorem Mirrored.complete (hm : r.Mirrored o os S q) (id : RequestId) :
    Option.Rel (fun a b => Pair os S a.1 b.1 ∧ a.2.Mirrored o os S b.2)
      (r.complete S id) (q.complete S id) := by
  have hl := hm.lookup id
  simp only [Registry.complete]
  generalize r.lookup S id = a, q.lookup S id = b at hl
  cases hl with
  | none => exact .none
  | some hp => exact .some ⟨hp, (hm.takeOut id).of_sameButCounts ⟨_, _, rfl⟩ ⟨_, _, rfl⟩⟩

/-- Abandoning begins alike on both sides. -/
inductive AbandonsAlike (o : Ownership) (os : List SessionId) (S : SessionId) :
    AbandonStart → AbandonStart → Prop
  | notFound : AbandonsAlike o os S .notFound .notFound
  | notCancellable : AbandonsAlike o os S .notCancellable .notCancellable
  | taken {h k : HandleId} {r q : Registry} (hp : Pair os S h k) (hm : r.Mirrored o os S q) :
      AbandonsAlike o os S (.taken h r) (.taken k q)

theorem Mirrored.beginAbandon (hm : r.Mirrored o os S q) (id : RequestId) :
    AbandonsAlike o os S (r.beginAbandon S id) (q.beginAbandon S id) := by
  have hl := hm.lookup id
  simp only [Registry.beginAbandon]
  generalize r.lookup S id = a, q.lookup S id = b at hl
  cases hl with
  | none => exact .notFound
  | @some h k hp =>
      have hx := hm.handles h k hp
      have hcan : (r.handle? h).map Handle.cancellable = (q.handle? k).map Handle.cancellable := by
        generalize r.handle? h = a, q.handle? k = b at hx
        cases hx with
        | none => rfl
        | some hxy => exact congrArg some hxy.cancellable
      simp only [hcan]
      split
      · exact .taken hp (hm.takeOut id)
      · exact .notCancellable

theorem Mirrored.beginPurge (hm : r.Mirrored o os S q) :
    Option.Rel (fun a b => List.Forall₂ (Pair os S) a.1 b.1 ∧ a.2.Mirrored o os S b.2)
      (r.beginPurge S) (q.beginPurge S) := by
  have hreq := hm.requests
  simp only [Registry.beginPurge]
  generalize r.requests.get? S = a, q.requests.get? S = b at hreq
  cases hreq with
  | none => exact .none
  | some hmap =>
      cases hmap with
      | closing => exact .none
      | accepting hc =>
          refine .some ⟨hc.values, { hm with requests := ?_ }⟩
          simp only [Table.get?_insert, if_true]
          exact .some .closing

theorem Mirrored.endPurge (hm : r.Mirrored o os S q) (n : Nat) :
    (r.endPurge S n).Mirrored o os S (q.endPurge S n) := by
  refine { hm with requests := ?_ }
  simp only [Registry.endPurge, Table.get?_erase, if_true]
  exact .none

/-! ## Contexts on both sides -/

end Registry

/-! ## Names on both sides -/

namespace Names

variable {ns ns' ms : Names}

theorem Mirrored.untouched (hm : ns.Mirrored o os S ms) (hu : ns.Untouched o S ns')
    (os' : List SessionId) : ns'.Mirrored o (os ++ os') S ms where
  handles := by
    intro n hn
    rw [hu.handles n hn]
    exact optionRel_imp (hm.handles n hn) fun _ _ hp => hp.append os'
  tokens := by
    intro n hn
    rw [hu.tokens n hn]
    exact optionRel_imp (hm.tokens n hn) fun _ _ hp => hp.append os'
  contexts := by
    intro n hn
    rw [hu.contexts n hn]
    exact hm.contexts n hn

theorem Mirrored.nameHandle (hm : ns.Mirrored o os S ms) (n : String) (hp : Pair os S h k) :
    ({ ns with handles := ns.handles.insert n h } : Names).Mirrored o os S
      { ms with handles := ms.handles.insert n k } := by
  refine { hm with handles := ?_ }
  intro n' hn'
  rw [Table.get?_insert, Table.get?_insert]
  split
  · exact .some hp
  · exact hm.handles n' hn'

theorem Mirrored.nameToken (hm : ns.Mirrored o os S ms) (n : String)
    (hp : TokenPair o os S t t') :
    ({ ns with tokens := ns.tokens.insert n t } : Names).Mirrored o os S
      { ms with tokens := ms.tokens.insert n t' } := by
  refine { hm with tokens := ?_ }
  intro n' hn'
  rw [Table.get?_insert, Table.get?_insert]
  split
  · exact .some hp
  · exact hm.tokens n' hn'

theorem Mirrored.nameContext {c c' : SharedContext} (hm : ns.Mirrored o os S ms) (n : String)
    (hc : c.content = c'.content) :
    ({ ns with contexts := ns.contexts.insert n c } : Names).Mirrored o os S
      { ms with contexts := ms.contexts.insert n c' } := by
  refine { hm with contexts := ?_ }
  intro n' hn'
  rw [Table.get?_insert, Table.get?_insert]
  split
  · exact congrArg some hc
  · exact hm.contexts n' hn'

end Names

/-! ## The least name -/

namespace Scene

variable {w w' v : Scene}

theorem Mirrored.untouched (hm : w.Mirrored o os S v) (hu : w.Untouched o os S w')
    (hT : T ≠ S) (n : Nat) : w'.Mirrored o (os ++ List.replicate n T) S v :=
  ⟨hm.registry.untouched hu.registry hT n, hm.names.untouched hu.names _,
    (congrArg _ hu.notes).trans hm.notes⟩

theorem Mirrored.withRegistry {r q : Registry} (hm : w.Mirrored o os S v)
    (hr : r.Mirrored o os S q) : (w.withRegistry r).Mirrored o os S (v.withRegistry q) :=
  { hm with registry := hr }

theorem Mirrored.nameContext {c c' : SharedContext} (hm : w.Mirrored o os S v)
    (n : Option String) (hc : c.content = c'.content) :
    (w.nameContext n c).Mirrored o os S (v.nameContext n c') := by
  cases n with
  | none => exact hm
  | some n => exact { hm with names := hm.names.nameContext n hc }

theorem Mirrored.nameToken (hm : w.Mirrored o os S v) (n : Option String)
    (hp : TokenPair o os S t t') : (w.nameToken n t).Mirrored o os S (v.nameToken n t') := by
  cases n with
  | none => exact hm
  | some n => exact { hm with names := hm.names.nameToken n hp }

theorem Mirrored.tokenOf {n : String} (hm : w.Mirrored o os S v) (hn : o.token n = S) :
    TokenPair o os S (w.tokenOf n).1 (v.tokenOf n).1 ∧
      (w.tokenOf n).2.Mirrored o os S (v.tokenOf n).2 := by
  have ht := hm.names.tokens n hn
  simp only [Scene.tokenOf]
  generalize w.names.tokens.get? n = a, v.names.tokens.get? n = b at ht
  cases ht with
  | none => exact ⟨.named hn, hm.nameToken (some n) (.named hn)⟩
  | some hp => exact ⟨hp, hm⟩

theorem Mirrored.handleOf? {n : String} (hm : w.Mirrored o os S v) (hn : o.handle n = S) :
    Option.Rel (Pair os S) (w.handleOf? n) (v.handleOf? n) :=
  hm.names.handles n hn

theorem Mirrored.note {a b : CallbackNote} (hm : w.Mirrored o os S v) (ho : o.handle a.owner = S)
    (hab : a.blind = b.blind) :
    ({ w with notes := a :: w.notes } : Scene).Mirrored o os S
      { v with notes := b :: v.notes } := by
  have hown : a.blind.owner = b.blind.owner := congrArg CallbackNote.owner hab
  simp only [CallbackNote.blind] at hown
  refine ⟨hm.registry, hm.names, ?_⟩
  simp only [notesOf, List.filter_cons, ← hown, ho, decide_true, if_true, List.map_cons, hab]
  exact congrArg _ hm.notes

end Scene

end DirectorySessions
