/-
# Contexts survive being written

A context is written as JSON, and from the text it is read back as it was: whatever
stands in its names, whichever controls it has, and whether a control has no value, an
empty one or any bytes (`SecurityContext.survives_writing`).

Many texts that nobody has written are read as contexts, too, and they may hold a good
deal that does not matter to them.  But the bytes of the controls are the numbers that
the text gives them, one for each and in the same order
(`SecurityContext.bytes_of_ofNode`): none is brought into the range of a byte, and a text
that gives a control anything else for a byte is refused.

The first clause is for all contexts without exception, and is put together from its
parts: a control is read back from its tree, an identity is, and so is a context, and
what is written spells that tree (`SecurityContext.ofNode_toJson`, `readText_toJson`).
The second says of the other texts that reading loses nothing of the controls either, so
that reading, writing and reading again cannot drift.
-/
import DirectorySessions.Proofs.Context.Identities
import DirectorySessions.Proofs.Json.Given
import DirectorySessions.Proofs.Request.Format

namespace DirectorySessions

open Json

theorem readList_map {α : Type} {read : Node → Reading α} (hread : Placeless read)
    {write : α → Value} (hwrite : ∀ a, read (write a).toNode = .ok a) (as : List α) :
    (Value.array (as.map write)).toNode.readList read = .ok as := by
  refine (readList_eq_ok hread (Value.toNode_spells _) as).2 ⟨_, rfl, ?_⟩
  rw [List.forall₂_map_left_iff]
  exact List.forall₂_same.2 fun a _ => mapError_eq_ok.2 (hwrite a)

/-! ## Controls -/

namespace Control

def bytes (c : Control) : List (Option Int) := (c.value.getD []).map fun b => some b.toNat

/-- What a control is given for bytes: whole numbers, or something else. -/
def bytesGiven (n : Node) : List (Option Int) :=
  ((under "value" (n.given shape)).flatMap Node.items).map Node.integer?

theorem readByte_iff {n : Node} {b : UInt8} :
    readByte n = .ok b ↔ n.integer? = some (b.toNat : Int) := by
  simp only [readByte, map_eq_ok, Node.readInteger_iff]
  constructor
  · rintro ⟨i, ⟨hi, hleast, hgreatest⟩, rfl⟩
    have hnat : ((UInt8.ofNat i.toNat).toNat : Int) = i := by
      simp only [IntegerKind.u8] at hleast hgreatest
      rw [UInt8.toNat_ofNat_of_lt' (by simp only [UInt8.size]; omega)]
      omega
    rwa [hnat]
  · intro hb
    have hlt := b.toNat_lt
    refine ⟨b.toNat, ⟨hb, ?_, ?_⟩, by simp⟩
    · exact Int.natCast_nonneg _
    · simp only [IntegerKind.u8]
      omega

theorem put_value {c c' : Control} {n : Node} (h : put c "value" n = .ok c') :
    n.readOptional (·.readList readByte) = .ok c'.value := by
  simp only [put, bind_eq_ok, pure_eq_ok] at h
  obtain ⟨v, hv, rfl⟩ := h
  exact hv

theorem put_of_ne {c c' : Control} {key : String} {n : Node} (hkey : key ≠ "value")
    (h : put c key n = .ok c') : c'.value = c.value := by
  unfold put at h
  split at h <;> simp only [bind_eq_ok, pure_eq_ok] at h
  · obtain ⟨oid, -, rfl⟩ := h
    rfl
  · obtain ⟨critical, -, rfl⟩ := h
    rfl
  · exact absurd rfl hkey
  · rw [h]

theorem bytes_of_ofNode {n : Node} {c : Control} (h : ofNode n = .ok c) :
    bytesGiven n = c.bytes := by
  rw [bytesGiven, bytes]
  rcases readRecord_field Control.value _ put_value put_of_ne (by decide) (by decide) h with
    ⟨hnone, hv⟩ | ⟨m, hm, hv⟩
  · rw [hnone, hv]
    rfl
  · rw [hm, List.flatMap_singleton]
    unfold Node.readOptional at hv
    split at hv
    · rw [← Except.ok.inj hv]
      rfl
    · obtain ⟨bytes, hbytes, hv⟩ := map_eq_ok.1 hv
      rw [← hv, ← List.forall₂_eq_eq_eq, List.forall₂_map_left_iff, List.forall₂_map_right_iff]
      exact (readList_each hbytes).imp fun _ _ => readByte_iff.1

theorem ofNode_toJson (c : Control) : ofNode c.toJson.toNode = .ok c := by
  obtain ⟨oid, critical, value⟩ := c
  cases value with
  | none => rfl
  | some bytes =>
      have hbytes : (valueJson bytes).toNode.readList readByte = .ok bytes :=
        readList_map placeless_readByte (fun _ => readByte_iff.2 rfl) bytes
      have hvalue :
          (valueJson bytes).toNode.readOptional (·.readList readByte) = .ok (some bytes) :=
        map_eq_ok.2 ⟨bytes, hbytes, rfl⟩
      show readMembers shape put .whole _ [] (Value.toSites _) = _
      refine readMembers_eq_ok_iff.2 ⟨?_, fun _ _ => List.not_mem_nil, ?_, ?_⟩
      · show ["oid", "critical", "value"].Nodup
        decide
      · show put ⟨oid, critical, none⟩ "value" (valueJson bytes).toNode >>= pure = _
        simp [put, hvalue]
      · show ∀ f ∈ shape.fields, f.2 = true → f.1 ∈ [] ∨ f.1 ∈ ["oid", "critical", "value"]
        decide

theorem exact_byte (b : UInt8) : (Value.ofNat b.toNat).Exact := by
  have hlt := b.toNat_lt
  show -9223372036854775808 ≤ (b.toNat : Int) ∧ (b.toNat : Int) ≤ 18446744073709551615
  omega

theorem exact_toJson (c : Control) : c.toJson.Exact := by
  obtain ⟨oid, critical, value⟩ := c
  cases value with
  | none => exact ⟨trivial, trivial, trivial⟩
  | some bytes =>
      have hbytes : (valueJson bytes).Exact :=
        exactItems_iff.2 (List.forall_mem_map.2 fun b _ => exact_byte b)
      exact ⟨trivial, trivial, hbytes, trivial⟩

end Control

/-! ## Contexts -/

namespace SecurityContext

/-- What the controls of a context are given for bytes, each for itself. -/
def bytesGiven (n : Node) : List (List (Option Int)) :=
  ((under "controls" (n.given shape)).flatMap Node.items).map Control.bytesGiven

theorem put_controls {c c' : SecurityContext} {n : Node} (h : put c "controls" n = .ok c') :
    n.readList Control.ofNode = .ok c'.controls := by
  simp only [put, bind_eq_ok, pure_eq_ok] at h
  obtain ⟨v, hv, rfl⟩ := h
  exact hv

theorem put_of_ne {c c' : SecurityContext} {key : String} {n : Node} (hkey : key ≠ "controls")
    (h : put c key n = .ok c') : c'.controls = c.controls := by
  unfold put at h
  split at h <;> simp only [bind_eq_ok, pure_eq_ok] at h
  · obtain ⟨identity, -, rfl⟩ := h
    rfl
  · obtain ⟨level, -, rfl⟩ := h
    rfl
  · exact absurd rfl hkey
  · obtain ⟨url, -, rfl⟩ := h
    rfl
  · rw [h]

theorem bytes_of_ofNode {n : Node} {c : SecurityContext} (h : ofNode n = .ok c) :
    bytesGiven n = c.controls.map Control.bytes := by
  rw [bytesGiven]
  rcases readRecord_field SecurityContext.controls _ put_controls put_of_ne (by decide)
    (by decide) h with ⟨hnone, hv⟩ | ⟨m, hm, hv⟩
  · rw [hnone, hv]
    rfl
  · rw [hm, List.flatMap_singleton, ← List.forall₂_eq_eq_eq, List.forall₂_map_left_iff,
      List.forall₂_map_right_iff]
    exact (readList_each hv).imp fun _ _ => Control.bytes_of_ofNode

/-! ### Reading a context back -/

theorem placeless_put (c : SecurityContext) (field : String) : Placeless (put c field) := by
  unfold put
  split
  · exact (Identity.placeless_ofNode 1).bind
  · exact ((placeless_readVariant _).map _).bind
  · exact placeless_control.readList.bind
  · exact placeless_readString.bind
  · exact placeless_pure c

theorem placeless_ofNode : Placeless ofNode := placeless_readRecord placeless_put _

theorem ofNode_toJson (c : SecurityContext) : ofNode c.toJson.toNode = .ok c := by
  have hlevel : AuthLevel.ofNode c.authLevel.toJson.toNode = .ok c.authLevel := by
    cases c.authLevel <;> rfl
  have hcontrols := readList_map placeless_control Control.ofNode_toJson c.controls
  show readMembers shape put .whole _ [] (Value.toSites _) = _
  refine readMembers_eq_ok_iff.2 ⟨?_, fun _ _ => List.not_mem_nil, ?_, ?_⟩
  · show ["identity", "auth_level", "controls", "provider_url"].Nodup
    decide
  · show [("identity", c.identity.toJson), ("auth_level", c.authLevel.toJson),
        ("controls", .array (c.controls.map Control.toJson)),
        ("provider_url", .string c.providerUrl)].foldlM (fun s m => put s m.1 m.2.toNode) _ = _
    have hurl : (Value.string c.providerUrl).toNode.readString = .ok c.providerUrl := rfl
    simp [put, c.identity.ofNode_toJson 1, hlevel, hcontrols, hurl]
  · show ∀ f ∈ shape.fields, f.2 = true →
      f.1 ∈ [] ∨ f.1 ∈ ["identity", "auth_level", "controls", "provider_url"]
    decide

theorem exact_toJson (c : SecurityContext) : c.toJson.Exact := by
  have hidentity : c.identity.toJson.Exact := by
    cases c.identity
    · exact ⟨trivial, trivial⟩
    · exact ⟨trivial, trivial, trivial⟩
  have hcontrols : Value.ExactItems (c.controls.map Control.toJson) :=
    exactItems_iff.2 (List.forall_mem_map.2 fun ctl _ => ctl.exact_toJson)
  exact ⟨hidentity, trivial, hcontrols, trivial, trivial⟩

theorem readText_toJson (c : SecurityContext) : readText c.toJson.text ofNode = .ok c :=
  (readText_text placeless_ofNode c.exact_toJson c).2 c.ofNode_toJson

/-- From the text that is written for it every context is read back.  So what was read
from any text is the same when it is written and read again; the bytes of its controls
are the numbers that this text gives them; and a text that gives a control anything else
for a byte than a whole number from 0 to 255 is not read as a context. -/
theorem survives_writing :
    (∀ c : SecurityContext, readText c.toJson.text ofNode = .ok c) ∧
    (∀ text c, readText text ofNode = .ok c → readText c.toJson.text ofNode = .ok c ∧
      bytesGiven (Document.ofText text).root = c.controls.map Control.bytes) ∧
    (∀ text, ∀ given ∈ bytesGiven (Document.ofText text).root, ∀ o ∈ given,
      (∀ i, o = some i → i < 0 ∨ 255 < i) → ∃ e, readText text ofNode = .error e) := by
  refine ⟨readText_toJson, fun text c h => ⟨c.readText_toJson, ?_⟩, ?_⟩
  · exact bytes_of_ofNode (readText_eq_ok.1 h).1
  · intro text given hgiven o ho hout
    cases h : readText text ofNode with
    | error e => exact ⟨e, rfl⟩
    | ok c =>
        -- what is given would be the byte of a control, and so in range
        rw [bytes_of_ofNode (readText_eq_ok.1 h).1] at hgiven
        obtain ⟨ctl, -, rfl⟩ := List.mem_map.1 hgiven
        obtain ⟨b, -, rfl⟩ := List.mem_map.1 ho
        have hlt := b.toNat_lt
        have := hout _ rfl
        omega

/-- A text whose members come in an order of their own, with another among them: the
identity is a list, its name is blank, one control is a list and the other has no value. -/
def terseText (byte : String) : String :=
  "\x7b\"x\":0,\"provider_url\":\"ü\",\"controls\":[[\"1\",true,[0," ++ byte ++
    "]],\x7b\"oid\":\"\\n\"\x7d],\"identity\":[\"principal\",\" \"],\"auth_level\":\"none\"\x7d"

def terseContext : SecurityContext :=
  ⟨.principal " ", .unproved, [⟨"1", true, some [0, 255]⟩, ⟨"\n", false, none⟩], "ü"⟩

/-- It is read, written and read again; but if 255 is replaced by 256, it is not read. -/
theorem terse_context_survives :
    readText (terseText "255") ofNode = .ok terseContext ∧
      readText terseContext.toJson.text ofNode = .ok terseContext ∧
      bytesGiven (Document.ofText (terseText "255")).root = [[some 0, some 255], []] ∧
      ∃ e, readText (terseText "256") ofNode = .error e := by
  have hread : readText (terseText "255") ofNode = .ok terseContext :=
    toOption_eq_some.1 (by decide +kernel)
  obtain ⟨hagain, hbytes⟩ := survives_writing.2.1 _ _ hread
  refine ⟨hread, hagain, hbytes, ?_⟩
  have hgiven : [some 0, some 256] ∈ bytesGiven (Document.ofText (terseText "256")).root := by
    decide +kernel
  refine survives_writing.2.2 _ _ hgiven (some 256) (by decide) ?_
  rintro i hi
  cases hi
  decide

end SecurityContext

end DirectorySessions
