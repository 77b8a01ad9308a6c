/-
# The gate for anonymous clients

Whether an anonymous client may act is asked in one place for a session with a
bound context and in another for one without; the discovery of the root goes
round both.  `getContext_spec` and `getRootContext_spec` say what comes out of
each path, `launch_gate` what a connection therefore hands to its backend, and
`gate_not_bypassed` puts this together for every course of a connection,
whatever others do to the registry in the meantime, its switch included.

A principal with a blank name counts as anonymous throughout.

## When the gate is asked

It is asked when a request is dispatched, and not again.  So a job that was
let pass goes on under its context if the switch is turned afterwards; but a
context that was bound while anonymous clients were admitted is looked at once
more by each request that would run under it, and an anonymous one is then of
no use (`getContext_spec`).

The discovery of the root is let pass whoever asks for it.  Nothing else can
be read that way: with the directory for a backend, what the job of such a
search comes to is the root entry, whatever the delay, unless it is cancelled.
The look-up of its context can fail because none could be made, but it never
says that access was denied (`getRootContext_spec`).

What makes contexts for sessions without one is arbitrary here, as is what
others do.
-/
import DirectorySessions.Proofs.Connection.Course

namespace DirectorySessions

theorem Identity.isAnonymous_eq_false {i : Identity} (h : i.isAnonymous = false) :
    ∃ name, i = .principal name ∧ Text.allBlank name = false := by
  cases i with
  | anonymous => cases h
  | principal name => exact ⟨name, rfl, h⟩

theorem Access.enforce_ok {anonymous allowed : Bool} {d : AccessDecision}
    (h : Access.enforce anonymous allowed false = .ok d) : anonymous = false ∨ allowed = true := by
  cases anonymous with
  | false => exact Or.inl rfl
  | true =>
      cases allowed with
      | true => exact Or.inr rfl
      | false => cases h

namespace Registry

variable {r r' : Registry} {s : SessionId} {cs : List Control} {b : Bool}

/-- A context for an ordinary operation is the bound one, or a fresh one where none is
bound; the gate lets it pass either way. -/
theorem getContext_eq_some {c : SharedContext} (h : r.getContext s cs b = (.ok (some c), r')) :
    r.contexts.get? s = some c ∧ (c.content.isAnonymous = false ∨ r.anonymousAllowed = true) ∨
      r.contexts.get? s = none ∧ r.anonymousAllowed = true ∧ r.freshContext cs = .ok (c, r') := by
  simp only [getContext] at h
  cases hg : r.getContext? s cs b with
  | error e =>
      rw [hg] at h
      cases h
  | ok p =>
      obtain ⟨c₁, r₁⟩ := p
      rw [hg] at h
      cases h
      simp only [getContext?] at hg
      cases hc : r.contexts.get? s with
      | some c' =>
          rw [hc] at hg
          dsimp only at hg
          cases ha : Access.enforce c'.content.isAnonymous r.anonymousAllowed false with
          | error e =>
              rw [ha] at hg
              cases hg
          | ok d =>
              rw [ha] at hg
              cases hg
              exact Or.inl ⟨rfl, Access.enforce_ok ha⟩
      | none =>
          rw [hc] at hg
          dsimp only at hg
          split at hg
          · cases hg
          · cases ha : Access.enforce true r.anonymousAllowed false with
            | error e =>
                rw [ha] at hg
                cases hg
            | ok d =>
                have hon := (Access.enforce_ok ha).resolve_left Bool.noConfusion
                rw [ha] at hg
                cases hf : r.freshContext cs with
                | error e =>
                    rw [hf] at hg
                    cases hg
                | ok y =>
                    rw [hf] at hg
                    cases hg
                    exact Or.inr ⟨rfl, hon, rfl⟩

/-- A context for an ordinary operation is bound and not anonymous, or else
anonymous access is switched on. -/
theorem getContext_spec {c : SharedContext} (h : r.getContext s cs b = (.ok (some c), r')) :
    r.anonymousAllowed = true ∨ r.contexts.get? s = some c ∧ c.content.isAnonymous = false := by
  rcases getContext_eq_some h with ⟨hc, hn | hon⟩ | ⟨-, hon, -⟩
  · exact Or.inr ⟨hc, hn⟩
  · exact Or.inl hon
  · exact Or.inl hon

/-- The context for discovering the root fails only as its making does. -/
theorem getRootContext_spec {e : RegistryError} (h : (r.getRootContext s cs).1 = .error e) :
    ∃ e', e = .contextCreationFailed e' := by
  simp only [getRootContext] at h
  split at h
  · cases h
  · split at h
    · cases h
    · rename_i hf
      cases h
      simp only [freshContext, RegistryConfig.anonymousContext] at hf
      cases hsrc : r.config.source with
      | direct =>
          rw [hsrc] at hf
          cases hf
      | factory f =>
          rw [hsrc] at hf
          dsimp only at hf
          cases hb : f cs .anonymous with
          | ok x =>
              rw [hb] at hf
              cases hf
          | error e' =>
              rw [hb] at hf
              cases hf
              exact ⟨e', rfl⟩

end Registry

namespace Work

theorem finish_outcome {k : Work} {at? : Option Nat} {t : Nat} {o : Outcome}
    (h : k.finish at? = some (t, o)) : o = k.outcome ∨ o = .cancelled ∧ at? ≠ none := by
  simp only [finish] at h
  grind

end Work

namespace Connection

section

variable {sv : Services} {allows : Scene → Scene → Prop} {w₀ w : Scene} {s : SessionId}
  {c : Connection} {es : List JobEvent} {r r' : Registry} {q : Request} {j : Job}

/-- What is handed to the backend may be carried out: anonymous access is
switched on, or the context is not anonymous, or the root is discovered. -/
theorem launch_gate (h : launch sv r s q = (.ok j, r')) :
    j.work = sv.backend.start j.operation j.context.content ∧
      (r.anonymousAllowed = true ∨ j.context.content.isAnonymous = false ∨
        j.operation.isRootDiscovery = true) := by
  unfold launch at h
  split at h
  · cases h
  · split at h
    · cases h
    · cases h
    · rename_i ctx r₁ hc
      dsimp only at h
      split at h
      · cases h
      · cases h
        refine ⟨rfl, ?_⟩
        simp only [contextFor] at hc
        cases hroot : q.operation.isRootDiscovery with
        | true => exact Or.inr (Or.inr rfl)
        | false =>
            rw [hroot] at hc
            simp only [Bool.false_eq_true, if_false] at hc
            rcases Registry.getContext_spec hc with hon | ⟨-, hn⟩
            · exact Or.inl hon
            · exact Or.inr (Or.inl hn)

theorem lostEvents_not_began (s : SessionId) (w w' : Scene) : .began j ∉ lostEvents s w w' := by
  intro hin
  obtain ⟨p, -, hp⟩ := List.mem_map.mp hin
  cases hp

theorem Served.began {q : Request} {w' : Scene} {c' : Connection}
    (h : Served sv w c q es w' c') (hj : .began j ∈ es) :
    es = [.began j] ∧ ∃ r, launch sv w.registry c.session q = (.ok j, r) := by
  cases h with
  | leave hop => exact absurd hj (lostEvents_not_began _ _ _)
  | abandon target hop =>
      split at hj
      · cases List.mem_singleton.mp hj
      · exact absurd hj List.not_mem_nil
  | taken h hl => exact absurd hj List.not_mem_nil
  | bind dn password hop hfree => exact absurd hj List.not_mem_nil
  | refused a r hl => exact absurd hj List.not_mem_nil
  | launched k r hfree hl =>
      cases List.mem_singleton.mp hj
      exact ⟨rfl, r, hl⟩

theorem Received.began {i : Input} {w' : Scene} {c' : Connection}
    (h : Received sv w c i es w' c') (hj : .began j ∈ es) :
    es = [.began j] ∧ ∃ q r, launch sv w.registry c.session q = (.ok j, r) := by
  cases h with
  | blank t hb => exact absurd hj List.not_mem_nil
  | malformed t e hq => exact absurd hj List.not_mem_nil
  | overlong => exact absurd hj List.not_mem_nil
  | hangUp => exact absurd hj (lostEvents_not_began _ _ _)
  | @served t q _ _ _ hq h =>
      obtain ⟨he, r, hl⟩ := h.began hj
      exact ⟨he, q, r, hl⟩

theorem Served.jobs {q : Request} {w' : Scene} {c' : Connection}
    (h : Served sv w c q es w' c') (hj : j ∈ c'.jobs) : j ∈ c.jobs ∨ .began j ∈ es := by
  cases h with
  | launched k r hfree hl =>
      rcases List.mem_append.mp hj with hj | hj
      · exact Or.inl hj
      · cases List.mem_singleton.mp hj
        exact Or.inr List.mem_cons_self
  | _ => exact Or.inl hj

theorem Received.jobs {i : Input} {w' : Scene} {c' : Connection}
    (h : Received sv w c i es w' c') (hj : j ∈ c'.jobs) : j ∈ c.jobs ∨ .began j ∈ es := by
  cases h with
  | served hq h => exact h.jobs hj
  | _ => exact Or.inl hj

/-- Every job of a connection began in its course, by being launched. -/
theorem Course.began_launched (h : Course sv allows w₀ s es w c) (hj : .began j ∈ es) :
    ∃ es₁ es₂ w₁ c₁ q r, Course sv allows w₀ s es₁ w₁ c₁ ∧ es = es₁ ++ .began j :: es₂ ∧
      launch sv w₁.registry c₁.session q = (.ok j, r) := by
  -- what began earlier began in the same place
  have earlier : ∀ {es es' : List JobEvent}, (∃ es₁ es₂ w₁ c₁ q r,
      Course sv allows w₀ s es₁ w₁ c₁ ∧ es = es₁ ++ .began j :: es₂ ∧
        launch sv w₁.registry c₁.session q = (.ok j, r)) →
      ∃ es₁ es₂ w₁ c₁ q r, Course sv allows w₀ s es₁ w₁ c₁ ∧ es ++ es' = es₁ ++ .began j :: es₂ ∧
        launch sv w₁.registry c₁.session q = (.ok j, r) := by
    rintro es es' ⟨es₁, es₂, w₁, c₁, q, r, h₁, rfl, hl⟩
    exact ⟨es₁, es₂ ++ es', w₁, c₁, q, r, h₁, List.append_assoc _ _ _, hl⟩
  induction h with
  | accept => exact absurd hj List.not_mem_nil
  | @receive es w c h hr i ih =>
      rcases List.mem_append.mp hj with hj | hj
      · exact earlier (ih hj)
      · obtain ⟨he, q, r, hl⟩ := (receive_cases sv w c i).began hj
        rw [he]
        exact ⟨es, [], w, c, q, r, h, rfl, hl⟩
  | register h hr hb ih =>
      rcases List.mem_append.mp hj with hj | hj
      · exact earlier (ih hj)
      · cases List.mem_singleton.mp hj
  | settle h hb ih =>
      rcases List.mem_append.mp hj with hj | hj
      · exact earlier (ih hj)
      · cases List.mem_singleton.mp hj
  | leave h hr ht ih =>
      rcases List.mem_append.mp hj with hj | hj
      · exact earlier (ih hj)
      · exact absurd hj (lostEvents_not_began _ _ _)
  | finish h hin o ih =>
      rcases List.mem_append.mp hj with hj | hj
      · exact earlier (ih hj)
      · cases List.mem_singleton.mp hj
  | others h ha ih =>
      rcases List.mem_append.mp hj with hj | hj
      · exact earlier (ih hj)
      · exact absurd hj (lostEvents_not_began _ _ _)

theorem Course.began_of_job (h : Course sv allows w₀ s es w c) (hj : j ∈ c.jobs) :
    .began j ∈ es := by
  induction h with
  | accept => exact absurd hj List.not_mem_nil
  | @receive es w c h hr i ih =>
      rcases (receive_cases sv w c i).jobs hj with hj | hj
      · exact List.mem_append_left _ (ih hj)
      · exact List.mem_append_right _ hj
  | register h hr hb ih => exact List.mem_append_left _ (ih hj)
  | settle h hb ih => exact List.mem_append_left _ (ih hj)
  | leave h hr ht ih => exact List.mem_append_left _ (ih hj)
  | @finish es w c h k hk o ih =>
      rw [finishJob_jobs] at hj
      exact List.mem_append_left _ (ih (List.mem_filter.mp hj).1)
  | others h ha ih => exact List.mem_append_left _ (ih hj)

end

end Connection

/-- Anonymous clients get no further than the gate lets them, whatever others
do to the registry: a context that is given out while the switch is off is
bound and somebody's; and a job was dispatched while the switch was on, or for
somebody, or to discover the root, for which the directory has the root entry
and nothing else.  Discovering the root is never denied. -/
theorem gate_not_bypassed :
    (∀ (r r' : Registry) (s : SessionId) (cs : List Control) (b : Bool) (c : SharedContext),
      r.anonymousAllowed = false → r.getContext s cs b = (.ok (some c), r') →
        r.contexts.get? s = some c ∧
          ∃ name, c.content.identity = .principal name ∧ Text.allBlank name = false) ∧
    (∀ (sv : Services) (allows : Scene → Scene → Prop) (w₀ w : Scene) (s : SessionId)
      (es : List Connection.JobEvent) (c : Connection) (j : Job),
      Connection.Course sv allows w₀ s es w c → .began j ∈ es ∨ j ∈ c.jobs →
        ∃ es₁ es₂ w₁ c₁ q r, Connection.Course sv allows w₀ s es₁ w₁ c₁ ∧
          es = es₁ ++ .began j :: es₂ ∧
          Connection.launch sv w₁.registry c₁.session q = (.ok j, r) ∧
          j.work = sv.backend.start j.operation j.context.content ∧
          (w₁.registry.anonymousAllowed = true ∨
            (∃ name, j.context.content.identity = .principal name ∧
              Text.allBlank name = false) ∨
            ∃ base filter, j.operation = .search base filter ∧ Text.allBlank base = true ∧
              ∀ delay, sv.backend = .directory delay →
                j.work.finish none =
                  some (delay, .entries [Backend.rootEntry j.context.content.providerUrl]) ∧
                ∀ at? t o, j.work.finish at? = some (t, o) →
                  o = .entries [Backend.rootEntry j.context.content.providerUrl] ∨
                    o = .cancelled ∧ at? ≠ none)) ∧
    (∀ url, ∃ rest, Backend.rootEntry url = .object (("dn", .string "") :: rest)) ∧
    (∀ (r : Registry) (s : SessionId) (cs : List Control) (reason : String),
      (r.getRootContext s cs).1 ≠ .error (.accessDenied reason)) := by
  refine ⟨?_, ?_, fun url => ⟨_, rfl⟩, ?_⟩
  · intro r r' s cs b c hoff hg
    rcases Registry.getContext_spec hg with hon | ⟨hbound, hn⟩
    · rw [hoff] at hon
      cases hon
    · exact ⟨hbound, Identity.isAnonymous_eq_false hn⟩
  · intro sv allows w₀ w s es c j h hj
    have hbegan : .began j ∈ es := hj.elim (fun hb => hb) h.began_of_job
    obtain ⟨es₁, es₂, w₁, c₁, q, r, h₁, he, hl⟩ := h.began_launched hbegan
    obtain ⟨hwork, hgate⟩ := Connection.launch_gate hl
    refine ⟨es₁, es₂, w₁, c₁, q, r, h₁, he, hl, hwork, ?_⟩
    rcases hgate with hon | hn | hroot
    · exact Or.inl hon
    · exact Or.inr (Or.inl (Identity.isAnonymous_eq_false hn))
    · refine Or.inr (Or.inr ?_)
      cases hop : j.operation with
      | search base filter =>
          rw [hop] at hroot
          refine ⟨base, filter, rfl, hroot, ?_⟩
          intro delay hdir
          have hroot' : j.work =
              ⟨some delay, true, .entries [Backend.rootEntry j.context.content.providerUrl]⟩ := by
            rw [hwork, hdir, hop]
            simp only [Backend.start, Backend.answer, hroot, if_true]
          rw [hroot']
          refine ⟨rfl, ?_⟩
          intro at? t o hfin
          exact Work.finish_outcome hfin
      | _ =>
          rw [hop] at hroot
          cases hroot
  · intro r s cs reason he
    obtain ⟨e', he'⟩ := Registry.getRootContext_spec he
    cases he'

namespace Connection

def closedScene : Scene := .new (.new ⟨"ldap:", .direct⟩ false)

def rootSearch : Request := ⟨⟨1⟩, .search " " none, []⟩

def discovering : Scene × Connection :=
  (accept closedScene ⟨"s"⟩).2.serve directoryServices (accept closedScene ⟨"s"⟩).1 rootSearch

def rootJob : Job :=
  ⟨⟨0⟩, ⟨1⟩, .search " " none, ⟨0, .anonymous [] "ldap:"⟩,
    directoryServices.backend.start (.search " " none) (.anonymous [] "ldap:")⟩

theorem root_search_passes_closed_gate :
    rootJob ∈ discovering.2.jobs ∧
      (∃ w₁ c₁ q r, launch directoryServices (w₁ : Scene).registry (c₁ : Connection).session q =
        (.ok rootJob, r)) ∧
      ∃ name, (Identity.principal "cn=a") = .principal name ∧ Text.allBlank name = false := by
  have hcourse : Course directoryServices (fun _ _ => True) closedScene ⟨"s"⟩ [.began rootJob]
      discovering.1 discovering.2 :=
    Course.accept.line rfl (t := "\x7b\"id\":1,\"op\":\"search\",\"base\":\" \"\x7d")
      (by decide) (q := rootSearch) (ofLine_eq (by decide +kernel))
  have hjob : rootJob ∈ discovering.2.jobs := List.mem_singleton.mpr rfl
  obtain ⟨hcontext, hdispatch, -, -⟩ := gate_not_bypassed
  obtain ⟨es₁, es₂, w₁, c₁, q, r, -, -, hl, -⟩ := hdispatch directoryServices (fun _ _ => True)
    closedScene discovering.1 ⟨"s"⟩ [.began rootJob] discovering.2 rootJob hcourse (Or.inr hjob)
  -- somebody is bound on the session, and the switch is off
  have hbound := hcontext
    (closedScene.registry.setContext ⟨"s"⟩ ⟨0, .principal "cn=a" .simple [] "ldap:"⟩) _ ⟨"s"⟩ []
    true ⟨0, .principal "cn=a" .simple [] "ldap:"⟩ rfl rfl
  exact ⟨hjob, ⟨w₁, c₁, q, r, hl⟩, hbound.2⟩

end Connection

end DirectorySessions
