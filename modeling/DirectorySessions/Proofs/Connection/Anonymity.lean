/-
# Who counts as anonymous

Whether a client is anonymous is asked of a bind's credentials, again by the factory that
builds a context from them, and later of the context's identity, whose name has lost the
blanks around it (`Text.Trims`) by then.  The three agree, since a name loses all of its
characters just if all of them are blank (`Text.allBlank_of_trims`).

The gate looks at the first of the three, and requests are let pass or not on account of the
last.  As they agree, a bind that the gate lets pass while anonymous clients are shut out
cannot bind an anonymous context (`Connection.allowed_of_clearedBy`); and so, however many
connections there are and whatever they do in turns (`Connection.Concourse`), an anonymous
context that is bound was there before, was bound by someone else, or was bound when
anonymous clients were admitted.

## What is assumed, and what is not

Names are arbitrary texts, and blank is whatever `Text.isBlank` says of a character, wide
and unusual blanks included.  Only the factory of the directory is considered, with any
location; another one could make an anonymous context out of any credentials.

Of the others who use the registry nothing is assumed.  They may bind anonymous contexts
themselves, and then the last clause of `anonymity_agreed_upon` says which operation it was.
They may also turn the switch while a bind is under way: what counts is how it stands when
the gate is asked, and that is when the bind is settled (`Moment.bound_before`).
-/
import DirectorySessions.Proofs.Connection.Passwords
import DirectorySessions.Proofs.Connection.Refusals
import Mathlib.Data.List.DropRight

namespace DirectorySessions

/-! ## Blanks around a text -/

namespace Text

variable {s t : String}

/-- The second text is the first without the blanks around it. -/
structure Trims (s t : String) : Prop where
  around : ∃ l r, s.toList = l ++ t.toList ++ r ∧ (∀ c ∈ l, isBlank c = true) ∧
    ∀ c ∈ r, isBlank c = true
  first : ∀ c ∈ t.toList.head?, isBlank c = false
  last : ∀ c ∈ t.toList.getLast?, isBlank c = false

theorem trimChars_eq_rdropWhile (cs : List Char) :
    trimChars cs = (cs.dropWhile isBlank).rdropWhile isBlank :=
  rfl

theorem rdropWhile_append_blanks {cs r : List Char} (hlast : ∀ c ∈ cs.getLast?, isBlank c = false)
    (hr : ∀ c ∈ r, isBlank c = true) : (cs ++ r).rdropWhile isBlank = cs := by
  rw [List.rdropWhile, List.reverse_append,
    List.dropWhile_append_of_pos fun c hc => hr c (List.mem_reverse.mp hc), ← List.rdropWhile,
    List.rdropWhile_eq_self_iff]
  intro hne
  rw [hlast _ (List.getLast?_eq_some_getLast hne)]
  exact Bool.false_ne_true

theorem trims_iff : Trims s t ↔ t = trim s := by
  constructor
  · rintro ⟨⟨l, r, hs, hl, hr⟩, hfirst, hlast⟩
    refine String.toList_injective ?_
    rw [trim, String.toList_ofList, trimChars_eq_rdropWhile, hs, List.append_assoc,
      List.dropWhile_append_of_pos hl]
    cases ht : t.toList with
    | nil =>
        rw [List.nil_append, List.dropWhile_eq_nil_iff.mpr hr, List.rdropWhile_nil]
    | cons c cs =>
        rw [ht] at hfirst hlast
        have hc : ¬isBlank c = true := Bool.eq_false_iff.mp (hfirst c rfl)
        rw [List.cons_append, List.dropWhile_cons_of_neg hc, ← List.cons_append,
          rdropWhile_append_blanks hlast hr]
  · rintro rfl
    have hl := List.takeWhile_append_dropWhile (p := isBlank) (l := s.toList)
    have hr := List.rdropWhile_append_rtakeWhile (p := isBlank) (l := s.toList.dropWhile isBlank)
    refine ⟨⟨s.toList.takeWhile isBlank, (s.toList.dropWhile isBlank).rtakeWhile isBlank, ?_,
      fun c hc => List.mem_takeWhile_imp hc, fun c hc => List.mem_rtakeWhile_imp hc⟩, ?_, ?_⟩
    · rw [trim, String.toList_ofList, trimChars_eq_rdropWhile, List.append_assoc, hr, hl]
    · -- what is left of a text that does not begin with a blank begins as the text does
      rw [trim, String.toList_ofList, trimChars_eq_rdropWhile]
      intro c hc
      have hfirst := List.head?_dropWhile_not isBlank s.toList
      obtain ⟨rest, hrest⟩ := List.rdropWhile_prefix isBlank (s.toList.dropWhile isBlank)
      rw [← hrest, List.head?_append, Option.mem_def.mp hc] at hfirst
      exact hfirst
    · rw [trim, String.toList_ofList, trimChars_eq_rdropWhile]
      intro c hc
      obtain ⟨hne, rfl⟩ := List.mem_getLast?_eq_getLast hc
      exact Bool.eq_false_iff.mpr (List.rdropWhile_last_not isBlank _ hne)

/-- To be blank, it does not matter to a text what blanks there are around it. -/
theorem allBlank_of_trims (h : Trims s t) : allBlank t = allBlank s := by
  obtain ⟨⟨l, r, hs, hl, hr⟩, -, -⟩ := h
  rw [allBlank, allBlank, hs, List.all_append, List.all_append, List.all_eq_true.mpr hl,
    List.all_eq_true.mpr hr, Bool.true_and, Bool.and_true]

end Text

/-! ## Credentials, factory, identity -/

/-- The credentials are those of a bind under the name and with the password, taken as they are
or with blank names told apart. -/
inductive Credentials.Give (dn password : String) : Credentials → Prop
  | simple : Give dn password (.simple dn password)
  | bind : Give dn password (.ofBind dn password)

theorem Credentials.Give.isAnonymous {dn password : String} {cr : Credentials}
    (h : Give dn password cr) : cr.isAnonymous = Text.allBlank dn := by
  cases h with
  | simple => rfl
  | bind => exact Connection.isAnonymous_ofBind dn password

namespace ContextFactory

variable {url dn password name : String} {cs : List Control} {cr : Credentials}
  {c : SecurityContext}

theorem directory_ofBind (url : String) (cs : List Control) (dn password : String) :
    directory url cs (.ofBind dn password) = directory url cs (.simple dn password) := by
  rw [Credentials.ofBind]
  split
  · next hb => simp only [directory, hb, if_true]
  · rfl

theorem directory_give (h : Credentials.Give dn password cr) (url : String) (cs : List Control) :
    directory url cs cr =
      if Text.allBlank dn then .ok (.anonymous cs url)
      else if password = "" then
        .error (.invalidCredentials ("unauthenticated bind for " ++ dn))
      else .ok (.principal (Text.trim dn) .simple cs url) := by
  have hsimple : directory url cs cr = directory url cs (.simple dn password) := by
    cases h with
    | simple => rfl
    | bind => exact directory_ofBind url cs dn password
  rw [hsimple]
  simp only [directory, String.isEmpty_iff]

theorem directory_error_iff (hcr : Credentials.Give dn password cr) :
    (∃ e, directory url cs cr = .error e) ↔ Text.allBlank dn = false ∧ password = "" := by
  rw [directory_give hcr]
  cases hb : Text.allBlank dn with
  | true => simp
  | false =>
      rw [if_neg Bool.false_ne_true]
      by_cases hp : password = ""
      · simp [hp]
      · simp [hp]

theorem directory_given (h : directory url cs cr = .ok c) :
    c.controls = cs ∧ c.providerUrl = url := by
  cases cr with
  | anonymous => cases h; exact ⟨rfl, rfl⟩
  | simple dn password =>
      rw [directory_give .simple] at h
      split at h
      · cases h
        exact ⟨rfl, rfl⟩
      · split at h
        · cases h
        · cases h
          exact ⟨rfl, rfl⟩

theorem directory_principal (hcr : Credentials.Give dn password cr)
    (h : directory url cs cr = .ok c) (hname : c.identity = .principal name) :
    Text.Trims dn name ∧ Text.allBlank name = false := by
  rw [directory_give hcr] at h
  split at h
  · cases h
    cases hname
  · next hb =>
    split at h
    · cases h
    · cases h
      cases hname
      have htrims : Text.Trims dn (Text.trim dn) := Text.trims_iff.mpr rfl
      exact ⟨htrims, (Text.allBlank_of_trims htrims).trans (Bool.eq_false_iff.mpr hb)⟩

/-- The factory and the credentials agree about who is anonymous. -/
theorem directory_isAnonymous (h : directory url cs cr = .ok c) :
    c.isAnonymous = cr.isAnonymous := by
  cases cr with
  | anonymous => cases h; rfl
  | simple dn password =>
      rw [directory_give .simple] at h
      rw [Credentials.Give.simple.isAnonymous]
      cases hb : Text.allBlank dn with
      | true =>
          rw [hb, if_pos rfl] at h
          cases h
          rfl
      | false =>
          rw [hb, if_neg Bool.false_ne_true] at h
          split at h
          · cases h
          · cases h
            exact (Text.allBlank_of_trims (Text.trims_iff.mpr rfl)).trans hb

end ContextFactory

namespace Connection

/-! ## Binds -/

section Binds

variable {sv : Services} {url : String} {r : Registry} {s : SessionId} {cr : Credentials}
  {cs : List Control} {x : SharedContext}

/-- Where a bind binds an anonymous context, anonymous clients are admitted. -/
theorem allowed_of_clearedBy (hsv : sv.factory = .directory url)
    (hb : clearedBy? sv r cr cs = some x) (ha : x.content.isAnonymous = true) :
    r.anonymousAllowed = true := by
  rw [clearedBy?] at hb
  split at hb
  · next content hgate hf =>
    cases hb
    rw [hsv] at hf
    have hcr : cr.isAnonymous = true := (ContextFactory.directory_isAnonymous hf).symm.trans ha
    simp only [Registry.authorizeBind, hcr] at hgate
    split at hgate
    · next hok => exact (Access.enforce_ok hok).resolve_left (by decide)
    · cases hgate
  · cases hb

theorem Moment.allowed_of_binding {m : Moment} (hsv : sv.factory = .directory url)
    (hb : m.binding? sv = some (.bound s x)) (ha : x.content.isAnonymous = true) :
    m.scene.registry.anonymousAllowed = true := by
  unfold Moment.binding? at hb
  split at hb
  · obtain ⟨b, -, hb⟩ := Option.bind_eq_some_iff.mp hb
    obtain ⟨y, hy, he⟩ := Option.map_eq_some_iff.mp hb
    cases he
    exact allowed_of_clearedBy hsv hy ha
  · split at hb
    · split at hb
      · cases hb
      · obtain ⟨y, hy, he⟩ := Option.map_eq_some_iff.mp hb
        cases he
        rw [boundBy?] at hy
        split at hy
        · cases hy
        · exact allowed_of_clearedBy hsv hy ha
    · cases hb

/-- Where anonymous clients are shut out, what the connection does itself binds no anonymous
context. -/
theorem Moment.bound_before {allows : Scene → Action → Prop} {m : Moment}
    (hsv : sv.factory = .directory url) (hp : m.Possible allows) (hown : m.action? = none)
    (hoff : m.scene.registry.anonymousAllowed = false)
    (hx : (m.next sv).1.registry.contexts.get? s = some x) (ha : x.content.isAnonymous = true) :
    m.scene.registry.contexts.get? s = some x := by
  rw [Moment.own_contexts hp hown, Binding.get?_foldl_apply] at hx
  rcases hx with ⟨bs₁, bs₂, he, -⟩ | ⟨hx, -⟩
  · have hin : .bound s x ∈ (m.binding? sv).toList := by
      rw [he]
      exact List.mem_append_right _ List.mem_cons_self
    have hb := Option.mem_toList.mp hin
    rw [Moment.allowed_of_binding hsv hb ha] at hoff
    cases hoff
  · exact hx

theorem Moment.action?_of_settle {m : Moment} (ht : m.turn = .settle) : m.action? = none := by
  simp [Moment.action?, Moment.leaves, Moment.request?, ht]

end Binds

/-! ## Many connections -/

/-- What can have become of the scene and of the connections that were accepted, with the
moments that they went through; they share the scene and take turns. -/
inductive Concourse (sv : Services) (allows : Scene → Action → Prop) (w₀ : Scene) :
    List Moment → Scene → List Connection → Prop
  | start : Concourse sv allows w₀ [] w₀ []
  | accept {ms : List Moment} {w : Scene} {cs : List Connection}
      (h : Concourse sv allows w₀ ms w cs) (s : SessionId) :
      Concourse sv allows w₀ ms (accept w s).1 (cs ++ [(accept w s).2])
  | turn {ms : List Moment} {w : Scene} {l r : List Connection} {c : Connection}
      (h : Concourse sv allows w₀ ms w (l ++ c :: r)) (t : Turn)
      (hp : Moment.Possible allows ⟨w, c, t⟩) :
      Concourse sv allows w₀ (ms ++ [⟨w, c, t⟩]) (Moment.next sv ⟨w, c, t⟩).1
        (l ++ (Moment.next sv ⟨w, c, t⟩).2 :: r)

namespace Concourse

variable {sv : Services} {allows : Scene → Action → Prop} {w₀ w : Scene} {ms : List Moment}
  {cs l r : List Connection} {c : Connection}

theorem line {t : String} {q : Request} (h : Concourse sv allows w₀ ms w (l ++ c :: r))
    (hr : c.listens = true) (hb : Text.allBlank t = false) (hq : Request.ofLine t = .ok q) :
    Concourse sv allows w₀ (ms ++ [⟨w, c, .receive (.line t)⟩]) (c.serve sv w q).1
      (l ++ (c.serve sv w q).2 :: r) := by
  have ht := h.turn (.receive (.line t)) hr
  simp only [Moment.next, Connection.receive, hb, hq, Bool.false_eq_true, if_false] at ht
  exact ht

theorem contexts (h : Concourse sv allows w₀ ms w cs) :
    w.registry.contexts =
      (ms.flatMap (Moment.bindings sv)).foldl Binding.apply w₀.registry.contexts := by
  induction h with
  | start => rfl
  | accept h s ih => exact ih
  | turn h t hp ih =>
      rw [Moment.next_contexts sv hp, ih, List.flatMap_append, List.flatMap_singleton,
        List.foldl_append]

theorem possible (h : Concourse sv allows w₀ ms w cs) {m : Moment} (hm : m ∈ ms) :
    m.Possible allows := by
  induction h with
  | start => exact absurd hm List.not_mem_nil
  | accept h s ih => exact ih hm
  | turn h t hp ih =>
      rcases List.mem_append.mp hm with hm | hm
      · exact ih hm
      · rw [List.mem_singleton.mp hm]
        exact hp

/-- What is bound was bound at the beginning, or it was bound at some moment. -/
theorem origin (h : Concourse sv allows w₀ ms w cs) {s : SessionId} {x : SharedContext}
    (hx : w.registry.contexts.get? s = some x) :
    w₀.registry.contexts.get? s = some x ∨ ∃ m ∈ ms, .bound s x ∈ m.bindings sv := by
  rw [h.contexts, Binding.get?_foldl_apply] at hx
  rcases hx with ⟨bs₁, bs₂, he, -⟩ | ⟨hx, -⟩
  · have hin : .bound s x ∈ ms.flatMap (Moment.bindings sv) := by
      rw [he]
      exact List.mem_append_right _ List.mem_cons_self
    exact Or.inr (List.mem_flatMap.mp hin)
  · exact Or.inl hx

end Concourse

/-- The credentials of a bind are anonymous just if its name is blank.  The directory's
factory refuses just those with a name that is not blank and an empty password.  The context
it builds is anonymous just if the credentials are; the name of a principal is the one
given without the blanks around it, and not blank; and the context has the controls and the
location that were given.  Hence a bind that is taken in while anonymous clients are shut out
binds no anonymous context, and neither does one that was registered before and is settled
then.  And in every run of connections an anonymous context that is
bound was bound at the beginning, or by an operation of the registry or one of its callbacks,
or by a bind while anonymous clients were admitted. -/
theorem anonymity_agreed_upon (url : String) :
    (∀ dn password, (Credentials.ofBind dn password).isAnonymous = true ↔
      Text.allBlank dn = true) ∧
    (∀ dn password cr, Credentials.Give dn password cr → ∀ controls,
      ((∃ e, ContextFactory.directory url controls cr = .error e) ↔
        Text.allBlank dn = false ∧ password = "") ∧
      ∀ c, ContextFactory.directory url controls cr = .ok c →
        c.isAnonymous = cr.isAnonymous ∧
        (∀ name, c.identity = .principal name →
          Text.Trims dn name ∧ Text.allBlank name = false) ∧
        c.controls = controls ∧ c.providerUrl = url) ∧
    ∀ {sv : Services} {allows : Scene → Action → Prop} {w₀ w : Scene} {ms : List Moment}
      {cs : List Connection}, sv.factory = .directory url → Concourse sv allows w₀ ms w cs →
      (∀ m ∈ ms, ∀ q dn password, m.request? = some q → q.operation = .bind dn password →
        m.scene.registry.anonymousAllowed = false →
        ∀ s x, (m.next sv).1.registry.contexts.get? s = some x → x.content.isAnonymous = true →
          m.scene.registry.contexts.get? s = some x) ∧
      (∀ m ∈ ms, m.turn = .settle → m.scene.registry.anonymousAllowed = false →
        ∀ s x, (m.next sv).1.registry.contexts.get? s = some x → x.content.isAnonymous = true →
          m.scene.registry.contexts.get? s = some x) ∧
      ∀ s x, w.registry.contexts.get? s = some x → x.content.isAnonymous = true →
        w₀.registry.contexts.get? s = some x ∨
        ∃ m ∈ ms, .bound s x ∈ m.passage.filterMap Machine.binding? ∨
          m.binding? sv = some (.bound s x) ∧ m.scene.registry.anonymousAllowed = true := by
  refine ⟨fun dn password => by rw [isAnonymous_ofBind], ?_, ?_⟩
  · intro dn password cr hcr controls
    refine ⟨ContextFactory.directory_error_iff hcr, fun c hc => ?_⟩
    have hgiven := ContextFactory.directory_given hc
    exact ⟨ContextFactory.directory_isAnonymous hc,
      fun name hname => ContextFactory.directory_principal hcr hc hname, hgiven.1, hgiven.2⟩
  · intro sv allows w₀ w ms cs hsv h
    refine ⟨?_, ?_, ?_⟩
    · intro m hm q dn password hq hop hoff s x hx ha
      exact Moment.bound_before hsv (h.possible hm)
        (Moment.action?_of_answered hq (by rw [hop]; rfl)) hoff hx ha
    · intro m hm ht hoff s x hx ha
      exact Moment.bound_before hsv (h.possible hm) (Moment.action?_of_settle ht) hoff hx ha
    · intro s x hx ha
      refine (h.origin hx).imp_right ?_
      rintro ⟨m, hm, hin⟩
      refine ⟨m, hm, ?_⟩
      rcases List.mem_append.mp hin with hin | hin
      · exact Or.inl hin
      · have hb := Option.mem_toList.mp hin
        exact Or.inr ⟨hb, Moment.allowed_of_binding hsv hb ha⟩

/-- Two connections of a server that shuts anonymous clients out. -/
def newcomer : Scene × Connection := accept closedScene ⟨"s"⟩

def latecomer : Scene × Connection := accept newcomer.1 ⟨"t"⟩

/-- The one client binds under a name with blanks around it, and then the other under a name
of one wide blank, and with a password. -/
def namedClient : Scene × Connection :=
  newcomer.2.serve directoryServices latecomer.1 ⟨⟨1⟩, .bind " cn=a " "p", []⟩

def blankClient : Scene × Connection :=
  latecomer.2.serve directoryServices namedClient.1 ⟨⟨1⟩, .bind "\u3000" "p", []⟩

def bindingInTurns : List Moment :=
  [⟨latecomer.1, newcomer.2, .receive
      (.line "\x7b\"id\":1,\"op\":\"bind\",\"dn\":\" cn=a \",\"password\":\"p\"\x7d")⟩,
    ⟨namedClient.1, latecomer.2, .receive
      (.line "\x7b\"id\":1,\"op\":\"bind\",\"dn\":\"\u3000\",\"password\":\"p\"\x7d")⟩]

theorem bindingInTurns_concourse :
    Concourse directoryServices (fun _ _ => False) closedScene bindingInTurns blankClient.1
      [namedClient.2, blankClient.2] := by
  have h : Concourse directoryServices (fun _ _ => False) closedScene [] latecomer.1
      ([] ++ newcomer.2 :: [latecomer.2]) :=
    (Concourse.start.accept ⟨"s"⟩).accept ⟨"t"⟩
  have h₁ : Concourse directoryServices (fun _ _ => False) closedScene (bindingInTurns.take 1)
      namedClient.1 ([namedClient.2] ++ latecomer.2 :: []) :=
    h.line rfl (by decide) (ofLine_eq (by decide +kernel))
  exact h₁.line rfl (by decide) (ofLine_eq (by decide +kernel))

/-- The first is bound under its name, without the blanks; the other is turned away, and no
anonymous context is bound to any session. -/
theorem blank_client_shut_out :
    blankClient.1.registry.contexts.get? ⟨"s"⟩ =
        some ⟨0, .principal "cn=a" .simple [] "ldap:"⟩ ∧
      Text.Trims " cn=a " "cn=a" ∧
      blankClient.2.responses.map Response.status = [.denied] ∧
      ∀ s x, blankClient.1.registry.contexts.get? s = some x → x.content.isAnonymous = false := by
  obtain ⟨-, hbuilt, hrun⟩ := anonymity_agreed_upon "ldap:"
  obtain ⟨-, -, horigin⟩ := hrun rfl bindingInTurns_concourse
  have hname := ((hbuilt " cn=a " "p" _ .bind []).2 (.principal "cn=a" .simple [] "ldap:")
    (by decide +kernel)).2.1 "cn=a" rfl
  -- neither bind is an operation of the registry
  have hpassage : ∀ m ∈ bindingInTurns, m.passage = [] := by
    intro m hm
    rcases List.mem_pair.mp hm with rfl | rfl
    · exact Moment.passage_of_none (Moment.action?_of_answered
        (q := ⟨⟨1⟩, .bind " cn=a " "p", []⟩) (by decide +kernel) rfl)
    · exact Moment.passage_of_none (Moment.action?_of_answered
        (q := ⟨⟨1⟩, .bind "\u3000" "p", []⟩) (by decide +kernel) rfl)
  refine ⟨by decide +kernel, hname.1, by decide +kernel, ?_⟩
  intro s x hx
  refine Bool.eq_false_iff.mpr fun ha => ?_
  rcases horigin s x hx ha with hx₀ | ⟨m, hm, hin | ⟨-, hallowed⟩⟩
  · cases hx₀
  · rw [hpassage m hm] at hin
    cases hin
  · rcases List.mem_pair.mp hm with rfl | rfl <;> cases hallowed

end Connection

end DirectorySessions
