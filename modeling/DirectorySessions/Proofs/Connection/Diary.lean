/-
# The diary of a connection

A course tells what became of the jobs.  A diary keeps more: every moment of
the connection, with the scene and the connection as they were and with what
happened next, so that what the client wrote, what it was answered, and what
an operation did to the registry on its way can be counted.

What can come of a moment is listed once, in `Comes`; the other facts about
moments are read off that list.

A bind is one moment, in which its line is received, or two, in which it is
registered and settled.  In the second case the line is a request only in what
it begins (`begun?`): there is nothing to answer until the bind is settled.

## Whose turn it is

The others act on the registry by one operation at a time, with all the
callbacks that this runs, and `allows` says which operations they may choose
in which scene.  It is left arbitrary where a theorem holds in any company.
Where something has to be asked of the others, such as that they put nothing
under the session's numbers, it is asked of what they are allowed.

A connection that is told to close need not notice it at once, and a job may
be done long after its request has gone; so neither turn is tied to a time.
With others who spare the session a diary is a course, with the events of its
moments (`Diary.course`), so that what is proved of courses can be used of
diaries.
-/
import DirectorySessions.Proofs.Connection.Ownership
import DirectorySessions.Proofs.Registry.Effects

namespace DirectorySessions

def Operation.isAnswered : Operation → Bool
  | .bind .. | .search .. | .whoami => true
  | .abandon _ | .unbind => false

def Operation.forBackend : Operation → Bool
  | .search .. | .whoami => true
  | .bind .. | .abandon _ | .unbind => false

theorem Operation.isAnswered_of_forBackend {op : Operation} (h : op.forBackend = true) :
    op.isAnswered = true := by
  cases op with
  | search base filter => rfl
  | whoami => rfl
  | _ => cases h

namespace Connection

inductive Turn where
  | receive (i : Input)
  /-- A line is read that asks for a bind, and the bind is registered. -/
  | register (t : String)
  /-- The bind that is under way is settled. -/
  | settle
  /-- The connection notices that it is told to close. -/
  | told
  | finish (j : Job) (o : Outcome)
  /-- Others carry out an action on the registry. -/
  | act (a : Action)

/-- A scene and a connection, and what happens next. -/
structure Moment where
  scene : Scene
  connection : Connection
  turn : Turn

namespace Moment

variable {sv : Services} {m : Moment}

def next (sv : Services) (m : Moment) : Scene × Connection :=
  match m.turn with
  | .receive i => m.connection.receive sv m.scene i
  | .register t => match m.connection.beginBind? m.scene t with
    | some (b, r) => (m.scene.withRegistry r, { m.connection with pending := some b })
    | none => (m.scene, m.connection)
  | .settle => match m.connection.pending with
    | some b => m.connection.settle sv m.scene b
    | none => (m.scene, m.connection)
  | .told => m.connection.leave m.scene
  | .finish j o => m.connection.finishJob m.scene j o
  | .act a => ((m.scene.perform a).1, m.connection)

def jobEvents (sv : Services) (s : SessionId) (m : Moment) : List JobEvent :=
  match m.turn with
  | .receive i => m.connection.receiveEvents sv m.scene i
  | .register t => match m.connection.beginBind? m.scene t with
    | some (b, _) => [.bindBegan b]
    | none => []
  | .settle => match m.connection.pending with
    | some b => [.bindSettled b (m.scene.registry.lookup s b.id)]
    | none => []
  | .told => lostEvents s m.scene (m.connection.leave m.scene).1
  | .finish j o => [.finished j o (m.scene.registry.lookup s j.id)]
  | .act a => lostEvents s m.scene (m.scene.perform a).1

/-- Can it happen, if others may do what `allows` says? -/
def Possible (allows : Scene → Action → Prop) (m : Moment) : Prop :=
  match m.turn with
  | .receive _ => m.connection.listens = true
  | .register t => m.connection.listens = true ∧ (m.connection.beginBind? m.scene t).isSome = true
  | .settle => m.connection.pending.isSome = true
  | .told => m.connection.listens = true ∧ m.connection.isTold m.scene = true
  | .finish j _ => j ∈ m.connection.jobs
  | .act a => allows m.scene a

/-- The request that is taken in and dealt with in this moment, if a line is read
that holds one. -/
def request? (m : Moment) : Option Request :=
  match m.turn with
  | .receive (.line t) => if Text.allBlank t then none else (Request.ofLine t).toOption
  | _ => none

/-- The bind that begins, to be settled in a later moment. -/
def begun? (m : Moment) : Option PendingBind :=
  match m.turn with
  | .register t => (m.connection.beginBind? m.scene t).map Prod.fst
  | _ => none

/-- Is a line read that is not blank and holds no request? -/
def isMalformed (m : Moment) : Bool :=
  match m.turn with
  | .receive (.line t) => !Text.allBlank t && (Request.ofLine t).toOption.isNone
  | _ => false

def isOverlong (m : Moment) : Bool :=
  match m.turn with
  | .receive .overlong => true
  | _ => false

/-- Does the connection stop reading, and close its session? -/
def leaves (m : Moment) : Bool :=
  match m.turn with
  | .told | .receive .hangUp => true
  | _ => m.request?.any fun q => q.operation = .unbind

/-- What can come of a moment. -/
inductive Comes (sv : Services) (m : Moment) : Scene → Connection → Prop
  | left (hl : m.leaves = true) :
      Comes sv m (m.connection.leave m.scene).1 (m.connection.leave m.scene).2
  | abandoned {q : Request} {target : RequestId} (hq : m.request? = some q)
      (hop : q.operation = .abandon target) :
      Comes sv m (m.scene.perform (.abandon m.connection.session target)).1 m.connection
  | taken {q : Request} {h : HandleId} (hq : m.request? = some q)
      (hop : q.operation.isAnswered = true)
      (hl : m.scene.registry.lookup m.connection.session q.id = some h) :
      Comes sv m m.scene (m.connection.respond (Connection.taken q.id))
  | bound {q : Request} {dn password : String} (hq : m.request? = some q)
      (hop : q.operation = .bind dn password)
      (hfree : m.scene.registry.lookup m.connection.session q.id = none) :
      Comes sv m
        (m.scene.withRegistry (bind sv m.scene.registry m.connection.session q.id
          (.ofBind dn password) q.controls).2)
        (m.connection.respond (bind sv m.scene.registry m.connection.session q.id
          (.ofBind dn password) q.controls).1)
  | refused {q : Request} {a : Response} {r : Registry} (hq : m.request? = some q)
      (hop : q.operation.forBackend = true)
      (hfree : m.scene.registry.lookup m.connection.session q.id = none)
      (hl : launch sv m.scene.registry m.connection.session q = (.error a, r)) :
      Comes sv m (m.scene.withRegistry r) (m.connection.respond a)
  | begun {t : String} {b : PendingBind} {r : Registry} (ht : m.turn = .register t)
      (hb : m.connection.beginBind? m.scene t = some (b, r)) :
      Comes sv m (m.scene.withRegistry r) { m.connection with pending := some b }
  | settled {b : PendingBind} (ht : m.turn = .settle) (hb : m.connection.pending = some b) :
      Comes sv m (m.connection.settle sv m.scene b).1 (m.connection.settle sv m.scene b).2
  | launched {q : Request} {j : Job} {r : Registry} (hq : m.request? = some q)
      (hop : q.operation.forBackend = true)
      (hfree : m.scene.registry.lookup m.connection.session q.id = none)
      (hl : launch sv m.scene.registry m.connection.session q = (.ok j, r)) :
      Comes sv m (m.scene.withRegistry r)
        { m.connection with jobs := m.connection.jobs ++ [j] }
  | malformed {t : String} {e : Json.Error} (ht : m.turn = .receive (.line t))
      (hm : m.isMalformed = true) :
      Comes sv m m.scene (m.connection.respond (Connection.malformed t e))
  | overlong (ht : m.turn = .receive .overlong) :
      Comes sv m m.scene (m.connection.respond tooLong)
  | blank {t : String} (ht : m.turn = .receive (.line t)) (hb : Text.allBlank t = true) :
      Comes sv m m.scene m.connection
  | finished {j : Job} {o : Outcome} (ht : m.turn = .finish j o) :
      Comes sv m (m.connection.finishJob m.scene j o).1 (m.connection.finishJob m.scene j o).2
  | acted {a : Action} (ht : m.turn = .act a) : Comes sv m (m.scene.perform a).1 m.connection

theorem turn_of_request {q : Request} (hq : m.request? = some q) :
    ∃ t, m.turn = .receive (.line t) ∧ Text.allBlank t = false ∧ Request.ofLine t = .ok q := by
  simp only [request?] at hq
  split at hq
  · rename_i t ht
    split at hq
    · cases hq
    · rename_i hb
      refine ⟨t, ht, Bool.eq_false_iff.mpr hb, ?_⟩
      cases ho : Request.ofLine t with
      | error e =>
          rw [ho] at hq
          cases hq
      | ok q' =>
          rw [ho] at hq
          cases hq
          rfl
  · cases hq

theorem turn_of_begun {b : PendingBind} (hb : m.begun? = some b) :
    ∃ t r, m.turn = .register t ∧ m.connection.beginBind? m.scene t = some (b, r) := by
  simp only [begun?] at hb
  split at hb
  · rename_i t ht
    obtain ⟨⟨b', r⟩, hbegin, rfl⟩ := Option.map_eq_some_iff.mp hb
    exact ⟨t, r, ht, hbegin⟩
  · cases hb

/-- While a bind is under way, nothing is read. -/
theorem pending_of_receive {allows : Scene → Action → Prop} {i : Input}
    (hp : m.Possible allows) (ht : m.turn = .receive i) : m.connection.pending = none := by
  rw [Possible, ht] at hp
  exact (listens_iff.mp hp).2

theorem pending_of_request {allows : Scene → Action → Prop} {q : Request}
    (hp : m.Possible allows) (hq : m.request? = some q) : m.connection.pending = none := by
  obtain ⟨t, ht, -, -⟩ := turn_of_request hq
  exact pending_of_receive hp ht

theorem pending_of_leaves {allows : Scene → Action → Prop} (hp : m.Possible allows)
    (hl : m.leaves = true) : m.connection.pending = none := by
  cases hq : m.request? with
  | some q => exact pending_of_request hp hq
  | none =>
      simp only [leaves, hq] at hl
      split at hl
      · rename_i ht
        rw [Possible, ht] at hp
        exact (listens_iff.mp hp.1).2
      · rename_i ht
        exact pending_of_receive hp ht
      · cases hl

theorem next_of_request {q : Request} (hq : m.request? = some q) :
    m.next sv = m.connection.serve sv m.scene q := by
  obtain ⟨t, ht, hb, ho⟩ := turn_of_request hq
  simp only [next, ht, receive, hb, ho, Bool.false_eq_true, if_false]

theorem leaves_of_request {q : Request} (hq : m.request? = some q) :
    m.leaves = decide (q.operation = .unbind) := by
  obtain ⟨t, ht, -, -⟩ := turn_of_request hq
  simp only [leaves, ht, hq, Option.any_some]

theorem no_request_of_malformed (hm : m.isMalformed = true) : m.request? = none := by
  simp only [isMalformed] at hm
  split at hm
  · rename_i t ht
    simp only [Bool.and_eq_true, Bool.not_eq_true', Option.isNone_iff_eq_none] at hm
    simp only [request?, ht, hm.1, hm.2, ite_self]
  · cases hm

theorem leaves_of_no_request {i : Input} (ht : m.turn = .receive i) (hi : i ≠ .hangUp)
    (hq : m.request? = none) : m.leaves = false := by
  cases i with
  | hangUp => exact absurd rfl hi
  | line t => simp only [leaves, ht, hq, Option.any_none]
  | overlong => simp only [leaves, ht, hq, Option.any_none]

theorem comes_of_launch {q : Request} (hq : m.request? = some q)
    (hop : q.operation.forBackend = true)
    (hfree : m.scene.registry.lookup m.connection.session q.id = none) :
    m.Comes sv (m.next sv).1 (m.next sv).2 := by
  cases hl : launch sv m.scene.registry m.connection.session q with
  | mk res r =>
      cases res with
      | error a =>
          have hn : m.next sv = (m.scene.withRegistry r, m.connection.respond a) := by
            rw [next_of_request hq]
            cases ho : q.operation <;> rw [ho] at hop <;> cases hop <;>
              simp only [serve, ho, hfree, hl, Option.isSome_none, Bool.false_eq_true, if_false]
          rw [hn]
          exact .refused hq hop hfree hl
      | ok j =>
          have hn : m.next sv = (m.scene.withRegistry r,
              { m.connection with jobs := m.connection.jobs ++ [j] }) := by
            rw [next_of_request hq]
            cases ho : q.operation <;> rw [ho] at hop <;> cases hop <;>
              simp only [serve, ho, hfree, hl, Option.isSome_none, Bool.false_eq_true, if_false]
          rw [hn]
          exact .launched hq hop hfree hl

theorem comes_of_request {q : Request} (hq : m.request? = some q) :
    m.Comes sv (m.next sv).1 (m.next sv).2 := by
  -- whoever asks for something that is answered may find the number taken
  have found : ∀ {h}, q.operation.isAnswered = true →
      m.scene.registry.lookup m.connection.session q.id = some h →
      m.Comes sv (m.next sv).1 (m.next sv).2 := by
    intro h hop hl
    have hn : m.next sv = (m.scene, m.connection.respond (Connection.taken q.id)) := by
      rw [next_of_request hq]
      obtain ⟨id, op, cs⟩ := q
      dsimp only at hl hop
      cases op with
      | abandon target => cases hop
      | unbind => cases hop
      | _ => simp only [serve, hl, Option.isSome_some, if_true]
    rw [hn]
    exact .taken hq hop hl
  cases hop : q.operation with
  | unbind =>
      rw [next_of_request hq]
      simp only [serve, hop]
      exact .left (by rw [leaves_of_request hq, hop]; rfl)
  | abandon target =>
      rw [next_of_request hq]
      simp only [serve, hop]
      exact .abandoned hq hop
  | bind dn password =>
      cases hl : m.scene.registry.lookup m.connection.session q.id with
      | some h => exact found (by rw [hop]; rfl) hl
      | none =>
          rw [next_of_request hq]
          simp only [serve, hop, hl, Option.isSome_none, Bool.false_eq_true, if_false]
          exact .bound hq hop hl
  | search base filter =>
      cases hl : m.scene.registry.lookup m.connection.session q.id with
      | some h => exact found (by rw [hop]; rfl) hl
      | none => exact comes_of_launch hq (by rw [hop]; rfl) hl
  | whoami =>
      cases hl : m.scene.registry.lookup m.connection.session q.id with
      | some h => exact found (by rw [hop]; rfl) hl
      | none => exact comes_of_launch hq (by rw [hop]; rfl) hl

/-- Every moment that can be comes to one of these. -/
theorem comes {allows : Scene → Action → Prop} (sv : Services) (hp : m.Possible allows) :
    m.Comes sv (m.next sv).1 (m.next sv).2 := by
  obtain ⟨w, c, turn⟩ := m
  match turn with
  | .receive (.line t) =>
      cases hb : Text.allBlank t with
      | true =>
          have hn : next sv ⟨w, c, .receive (.line t)⟩ = (w, c) := by
            simp only [next, receive, hb, if_true]
          rw [hn]
          exact .blank rfl hb
      | false =>
          cases ho : Request.ofLine t with
          | ok q =>
              have hq : request? ⟨w, c, .receive (.line t)⟩ = some q := by
                simp only [request?, hb, ho, Bool.false_eq_true, if_false]
                rfl
              exact comes_of_request hq
          | error e =>
              have hn : next sv ⟨w, c, .receive (.line t)⟩ =
                  (w, c.respond (Connection.malformed t e)) := by
                simp only [next, receive, hb, ho, Bool.false_eq_true, if_false]
              rw [hn]
              have hm : isMalformed ⟨w, c, .receive (.line t)⟩ = true := by
                simp only [isMalformed, hb, ho]
                rfl
              exact .malformed rfl hm
  | .receive .overlong => exact .overlong rfl
  | .receive .hangUp => exact .left rfl
  | .register t =>
      obtain ⟨⟨b, r⟩, hb⟩ := Option.isSome_iff_exists.mp hp.2
      dsimp only at hb
      have hn : next sv ⟨w, c, .register t⟩ =
          (w.withRegistry r, { c with pending := some b }) := by
        simp only [next, hb]
      rw [hn]
      exact .begun rfl hb
  | .settle =>
      obtain ⟨b, hb⟩ := Option.isSome_iff_exists.mp hp
      dsimp only at hb
      have hn : next sv ⟨w, c, .settle⟩ = c.settle sv w b := by
        simp only [next, hb]
      rw [hn]
      exact .settled rfl hb
  | .told => exact .left rfl
  | .finish j o => exact .finished rfl
  | .act a => exact .acted rfl

end Moment

/-- What can have become of the scene and of a connection that was accepted for
the session, with the moments that it went through; `allows` says what others
may do. -/
inductive Diary (sv : Services) (allows : Scene → Action → Prop) (w₀ : Scene) (s : SessionId) :
    List Moment → Scene → Connection → Prop
  | accept : Diary sv allows w₀ s [] (accept w₀ s).1 (accept w₀ s).2
  | turn {ms : List Moment} {w : Scene} {c : Connection} (h : Diary sv allows w₀ s ms w c)
      (t : Turn) (hp : Moment.Possible allows ⟨w, c, t⟩) :
      Diary sv allows w₀ s (ms ++ [⟨w, c, t⟩]) (Moment.next sv ⟨w, c, t⟩).1
        (Moment.next sv ⟨w, c, t⟩).2

namespace Diary

variable {sv : Services} {allows : Scene → Action → Prop} {w₀ w : Scene} {s : SessionId}
  {ms : List Moment} {c : Connection}

theorem course (hspares : ∀ w a, allows w a → Spares s w (w.perform a).1)
    (h : Diary sv allows w₀ s ms w c) :
    Course sv (Spares s) w₀ s (ms.flatMap (Moment.jobEvents sv s)) w c := by
  induction h with
  | accept => exact .accept
  | @turn ms w c h t hp ih =>
      rw [List.flatMap_append, List.flatMap_singleton]
      cases t with
      | receive i => exact ih.receive hp i
      | register t =>
          obtain ⟨⟨b, r⟩, hb⟩ := Option.isSome_iff_exists.mp hp.2
          dsimp only at hb
          simp only [Moment.jobEvents, Moment.next, hb]
          exact ih.register hp.1 hb
      | settle =>
          obtain ⟨b, hb⟩ := Option.isSome_iff_exists.mp hp
          dsimp only at hb
          simp only [Moment.jobEvents, Moment.next, hb]
          exact ih.settle hb
      | told => exact ih.leave hp.1 hp.2
      | finish j o => exact ih.finish hp o
      | act a => exact ih.others (hspares w a hp)

theorem before (h : Diary sv allows w₀ s ms w c) {m : Moment} (hm : m ∈ ms) :
    ∃ ms₁ ms₂, ms = ms₁ ++ m :: ms₂ ∧ Diary sv allows w₀ s ms₁ m.scene m.connection ∧
      m.Possible allows := by
  induction h with
  | accept => exact absurd hm List.not_mem_nil
  | @turn ms w c h t hp ih =>
      rcases List.mem_append.mp hm with hm | hm
      · obtain ⟨ms₁, ms₂, rfl, h₁, hp₁⟩ := ih hm
        refine ⟨ms₁, ms₂ ++ [⟨w, c, t⟩], ?_, h₁, hp₁⟩
        rw [List.append_assoc, List.cons_append]
      · cases List.mem_singleton.mp hm
        exact ⟨ms, [], rfl, h, hp⟩

theorem line {t : String} {q : Request} (h : Diary sv allows w₀ s ms w c) (hr : c.listens = true)
    (hb : Text.allBlank t = false) (hq : Request.ofLine t = .ok q) :
    Diary sv allows w₀ s (ms ++ [⟨w, c, .receive (.line t)⟩]) (c.serve sv w q).1
      (c.serve sv w q).2 := by
  have ht := h.turn (.receive (.line t)) hr
  simp only [Moment.next, Connection.receive, hb, hq, Bool.false_eq_true, if_false] at ht
  exact ht

theorem bind {t : String} {b : PendingBind} {r : Registry} (h : Diary sv allows w₀ s ms w c)
    (hr : c.listens = true) (hb : c.beginBind? w t = some (b, r)) :
    Diary sv allows w₀ s (ms ++ [⟨w, c, .register t⟩]) (w.withRegistry r)
      { c with pending := some b } := by
  have ht := h.turn (.register t) ⟨hr, by rw [hb]; rfl⟩
  simp only [Moment.next, hb] at ht
  exact ht

end Diary

end Connection

end DirectorySessions
