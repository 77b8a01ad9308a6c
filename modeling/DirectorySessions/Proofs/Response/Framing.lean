/-
# Response lines

A client tells responses apart by line breaks alone, and a good part of what
stands in a response was chosen by clients: names, bases, the text of errors.  So no
character below U+0020 may reach the line, and whoever reads the line must get
the response that was meant, with the members that were left out left out again
(`Response.lines_round_trip`).

It is asked of a response that its entries have no floating-point numbers in them,
that they are free values, whose keys ascend, and that they are not nested deeper
than a reader goes (`Response.Sendable`).  Texts are arbitrary, keys of entries
included.

The status is read back by name, members that were left out by their absence.  As a
record does not mind the place of its members, this comes down to one lemma about a
member that may be left out (`put_optional`).
-/
import DirectorySessions.Proofs.Identifier
import DirectorySessions.Proofs.Json.Records
import DirectorySessions.Proofs.Json.RoundTrip
import DirectorySessions.Response
import DirectorySessions.Text.Parts

namespace DirectorySessions

open Json

/-! ## The parts of a response -/

theorem Status.ofNode_toJson (s : Status) : Status.ofNode s.toJson.toNode = .ok s := by
  cases s <;> rfl

namespace Response

/-- The response can be sent: the entries hold no floating-point number, are as
free values are, and stand in the line no deeper than a text may be nested. -/
structure Sendable (r : Response) : Prop where
  exact : ∀ vs, r.entries = some vs → Value.ExactItems vs
  ordered : ∀ vs, r.entries = some vs → Value.OrderedItems vs
  shallow : r.toJson.depth < depthLimit

/-- What a connection writes: each response on a line of its own. -/
def written (rs : List Response) : List Char :=
  rs.flatMap fun r => r.toLine.toList ++ ['\n']

/-! ## Reading a response back -/

theorem placeless_put (r : Response) (field : String) : Placeless (put r field) := by
  have entries : Placeless (·.readOptional (·.readList (·.readValue 2))) :=
    (placeless_readValue 2).readList.readOptional
  unfold put
  split
  · exact RequestId.placeless_ofNode.bind
  · exact ((placeless_readVariant _).map _).bind
  · exact placeless_readString.readOptional.bind
  · exact placeless_readString.readOptional.bind
  · exact entries.bind
  · exact placeless_pure r

theorem placeless_ofNode : Placeless ofNode := placeless_readRecord placeless_put _

def toMembers (r : Response) : Members :=
  [("id", r.id.toJson), ("status", r.status.toJson)] ++
    optionalMember "message" (r.message.map .string) ++
    optionalMember "identity" (r.identity.map .string) ++
    optionalMember "entries" (r.entries.map .array)

theorem toJson_eq (r : Response) : r.toJson = .object r.toMembers := rfl

theorem optionalMember_keys (key : String) (v : Option Value) :
    ((optionalMember key v).map Prod.fst).Sublist [key] := by
  cases v with
  | none => exact List.nil_sublist _
  | some v => exact List.Sublist.refl _

theorem toMembers_keys (r : Response) :
    (r.toMembers.map Prod.fst).Sublist (shape.fields.map Prod.fst) := by
  have hmessage := optionalMember_keys "message" (r.message.map .string)
  have hidentity := optionalMember_keys "identity" (r.identity.map .string)
  have hentries := optionalMember_keys "entries" (r.entries.map .array)
  simp only [toMembers, List.map_append]
  exact (((List.Sublist.refl ["id", "status"]).append hmessage).append hidentity).append hentries

/-- A member that may be left out fills its field, or leaves it empty. -/
theorem put_optional {α : Type} (r : Response) (key : String) (o : Option α) (f : α → Value)
    (fill : Option α → Response) (hnone : fill none = r)
    (hsome : ∀ a, o = some a → put r key (f a).toNode = .ok (fill (some a))) :
    (optionalMember key (o.map f)).foldlM (fun s m => put s m.1 m.2.toNode) r = .ok (fill o) := by
  cases o with
  | none => exact congrArg _ hnone.symm
  | some a =>
      rw [Option.map_some, optionalMember, List.foldlM_cons, hsome a rfl]
      rfl

theorem Sendable.fits {r : Response} (hr : r.Sendable) {vs : List Value}
    (h : r.entries = some vs) : FitsAt 2 (Value.depthItems vs) := by
  have hmem : ("entries", Value.array vs) ∈ r.toMembers := by simp [toMembers, h, optionalMember]
  have hle := depth_le_depthMembers hmem
  have hline := hr.shallow
  rw [toJson_eq, Value.depth] at hline
  rw [Value.depth] at hle
  unfold FitsAt
  omega

theorem Sendable.readEntries {r : Response} (hr : r.Sendable) {vs : List Value}
    (h : r.entries = some vs) :
    (Value.array vs).toNode.readOptional (·.readList (·.readValue 2)) = .ok (some vs) := by
  rw [(Value.toNode_spells _).readOptional_eq_ok]
  refine .inr ⟨nofun, vs, ?_, rfl⟩
  show readItems _ _ _ = _
  rw [readItems_readValue, (Value.toNodes_spells vs).readValues_eq_ok Ending.whole_whole]
  exact ⟨hr.fits h, (foldedItems_eq (hr.ordered vs h)).symm⟩

theorem ofNode_toJson {r : Response} (hr : r.Sendable) : ofNode r.toJson.toNode = .ok r := by
  have hknown : shape.known r.toMembers = r.toMembers := by
    refine List.filter_eq_self.2 fun m hm => Shape.has_iff.2 ?_
    exact List.mem_map.1 (r.toMembers_keys.subset (List.mem_map_of_mem hm))
  show readMembers shape put .whole (success .zero) [] (Value.toSites r.toMembers) = .ok r
  rw [readMembers_eq_ok_iff, hknown]
  refine ⟨(by decide : (shape.fields.map Prod.fst).Nodup).sublist r.toMembers_keys,
    fun _ _ => List.not_mem_nil, ?_, fun f hf hmust => .inr ?_⟩
  · have hfirst : [("id", r.id.toJson), ("status", r.status.toJson)].foldlM
        (fun s m => put s m.1 m.2.toNode) (success .zero) =
          .ok ⟨r.id, r.status, none, none, none⟩ := by
      simp [put, r.id.ofNode_toJson, r.status.ofNode_toJson, success]
    have hmessage := put_optional ⟨r.id, r.status, none, none, none⟩ "message" r.message
      .string (fun x => ⟨r.id, r.status, x, none, none⟩) rfl fun _ _ => rfl
    have hidentity := put_optional ⟨r.id, r.status, r.message, none, none⟩ "identity" r.identity
      .string (fun x => ⟨r.id, r.status, r.message, x, none⟩) rfl fun _ _ => rfl
    have hentries := put_optional ⟨r.id, r.status, r.message, r.identity, none⟩ "entries"
      r.entries .array (fun x => ⟨r.id, r.status, r.message, r.identity, x⟩) rfl
      fun vs hvs => bind_eq_ok.2 ⟨_, hr.readEntries hvs, rfl⟩
    simp only [toMembers, List.foldlM_append, bind_eq_ok]
    exact ⟨_, ⟨_, ⟨_, hfirst, hmessage⟩, hidentity⟩, hentries⟩
  · have hkey : f.1 = "id" ∨ f.1 = "status" := by
      revert f
      decide
    rcases hkey with h | h <;> simp [h, toMembers]

theorem Sendable.exact_toJson {r : Response} (hr : r.Sendable) : r.toJson.Exact := by
  have optional : ∀ {key : String} {o : Option Value}, (∀ v, o = some v → v.Exact) →
      ∀ m ∈ optionalMember key o, m.2.Exact := by
    intro key o ho
    cases o with
    | none => exact fun _ h => absurd h List.not_mem_nil
    | some v => exact List.forall_mem_singleton.2 (ho v rfl)
  have string : ∀ (o : Option String) (v : Value), o.map Value.string = some v → v.Exact := by
    intro o v hv
    obtain ⟨s, -, rfl⟩ := Option.map_eq_some_iff.1 hv
    trivial
  have hid : r.id.toJson.Exact := by
    obtain ⟨hleast, hgreatest⟩ := r.id.toInt_bounds
    constructor
    · exact Int.le_trans (by decide) hleast
    · exact Int.le_trans hgreatest (by decide)
  rw [toJson_eq]
  refine exactMembers_iff.2 ?_
  simp only [toMembers, List.forall_mem_append, List.forall_mem_cons]
  refine ⟨⟨⟨⟨hid, trivial, fun _ h => absurd h List.not_mem_nil⟩, ?_⟩, ?_⟩, ?_⟩
  · exact optional (string r.message)
  · exact optional (string r.identity)
  · refine optional fun v hv => ?_
    obtain ⟨vs, hvs, rfl⟩ := Option.map_eq_some_iff.1 hv
    exact hr.exact vs hvs

theorem Sendable.toLine_visible {r : Response} (hr : r.Sendable) :
    ∀ c ∈ r.toLine.toList, 0x20 ≤ c.toNat := by
  rw [toLine, Value.text, String.toList_ofList]
  exact Value.chars_visible hr.exact_toJson

theorem Sendable.ofLine_toLine {r : Response} (hr : r.Sendable) : ofLine r.toLine = .ok r :=
  (readText_text placeless_ofNode hr.exact_toJson r).2 (ofNode_toJson hr)

/-! ## The lines of responses -/

/-- No character below U+0020 stands in a line, so what is written for responses
is cut into their lines again at the line breaks, one for each; and from its
line each response is read back. -/
theorem lines_round_trip (rs : List Response) (hrs : ∀ r ∈ rs, r.Sendable) :
    (∀ r ∈ rs, ∀ c ∈ r.toLine.toList, 0x20 ≤ c.toNat) ∧
      Text.cutAt '\n' (written rs) = rs.map (·.toLine.toList) ++ [[]] ∧
      ∀ r ∈ rs, ofLine r.toLine = .ok r := by
  refine ⟨fun r hr => (hrs r hr).toLine_visible, ?_, fun r hr => (hrs r hr).ofLine_toLine⟩
  induction rs with
  | nil => rfl
  | cons r rs ih =>
      obtain ⟨hr, hrs⟩ := List.forall_mem_cons.1 hrs
      have hline : '\n' ∉ r.toLine.toList := fun h => absurd (hr.toLine_visible _ h) (by decide)
      have hwritten : written (r :: rs) = r.toLine.toList ++ '\n' :: written rs := by
        simp [written]
      rw [hwritten, Text.cutAt_append hline, ih hrs]
      rfl

/-- Responses with quotes, line breaks and a control character in what clients
chose, with members that are empty and members that are left out. -/
def trickyResponses : List Response :=
  [⟨.ofInt (-2147483648), .error, some "\"\n\x01\\ü", some "", none⟩,
    ⟨.zero, .success, none, none,
      some [.object [("", .array [.null, .ofInt (-5), .string "\r"]), ("a\t", .object [])]]⟩]

/-- They can be sent, so they make up two lines, from which they are read back. -/
theorem tricky_lines_round_trip :
    (∀ r ∈ trickyResponses, r.Sendable) ∧
      (∀ r ∈ trickyResponses, ∀ c ∈ r.toLine.toList, 0x20 ≤ c.toNat) ∧
      Text.cutAt '\n' (written trickyResponses) =
        trickyResponses.map (·.toLine.toList) ++ [[]] ∧
      ∀ r ∈ trickyResponses, ofLine r.toLine = .ok r := by
  have hsend : ∀ r ∈ trickyResponses, r.Sendable := by
    refine List.forall_mem_cons.2 ⟨⟨nofun, nofun, by decide⟩, List.forall_mem_singleton.2 ?_⟩
    refine ⟨fun vs hvs => ?_, fun vs hvs => ?_, by decide⟩
    · cases hvs
      simp [Value.ExactItems, Value.Exact, Value.ExactMembers, Value.ofInt, Number.Exact]
    · cases hvs
      have hlt : "" < "a\t" := by decide
      simp only [Value.OrderedItems, Value.Ordered, Value.OrderedMembers, Value.ofInt, and_true,
        Members.Ascending, List.pairwise_pair]
      exact ⟨hlt, trivial, List.Pairwise.nil⟩
  exact ⟨hsend, lines_round_trip trickyResponses hsend⟩

end Response

end DirectorySessions
