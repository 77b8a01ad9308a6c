/-
# Three layers of settings

Each setting is what its variable says, if that is set, not empty and something
that the setting can be; else what the file says, if that is not null; else its
default (`Settings.Layered`).  The settings are loaded exactly if everything in the
file that is not null is of its type and the result is one that a server can work
with (`Settings.load_iff_layered`).

There are nine settings of three kinds, so what can be said of one is said once:
`Setting` lists them, `Settings.of` looks one up, `Settings.set` replaces it, and
storing a member of the file or applying a variable is reading a value of the kind of
the setting and replacing it (`Settings.put_eq_ok`, `Setting.forall₂_appliedBy`).

## How the proof goes

The file is read into a free value first, laid over the defaults, and only then made
into settings; so a value that is null in the file has vanished before anything is
checked, and one that stands twice counts as it stands last.  What the record's
reader then makes of each key is `ofFile_eq_ok`.  The variables come after that: each
is looked at by itself, and the list of those that stand for nothing is in the order
of the settings (`applyOverrides_eq`).  The two bounds that a server needs are
checked at the very end, on what has come of all layers.

What is not a setting is never looked at, and may be anything.
-/
import DirectorySessions.Proofs.Decimal.Spelling
import DirectorySessions.Proofs.Json.Records
import DirectorySessions.Proofs.Json.RoundTrip
import DirectorySessions.Settings
import Mathlib.Data.List.Forall2

namespace DirectorySessions

open Json

inductive Setting where
  | host
  | port
  | allowAnonymous
  | providerUrl
  | maxLineBytes
  | maxOutstanding
  | operationDelay
  | logLevel
  | logJson
deriving DecidableEq

namespace Setting

/-- All settings, in the order in which variables are applied. -/
def all : List Setting :=
  [.host, .port, .allowAnonymous, .providerUrl, .maxLineBytes, .maxOutstanding, .operationDelay,
    .logLevel, .logJson]

def key : Setting → String
  | .host => "host"
  | .port => "port"
  | .allowAnonymous => "allow_anonymous"
  | .providerUrl => "provider_url"
  | .maxLineBytes => "max_line_bytes"
  | .maxOutstanding => "max_outstanding_per_session"
  | .operationDelay => "operation_delay_ms"
  | .logLevel => "log_level"
  | .logJson => "log_json"

/-- The variable of a setting in the environment. -/
def envKey : Setting → String
  | .host => "DIRSESS_HOST"
  | .port => "DIRSESS_PORT"
  | .allowAnonymous => "DIRSESS_ALLOW_ANONYMOUS"
  | .providerUrl => "DIRSESS_PROVIDER_URL"
  | .maxLineBytes => "DIRSESS_MAX_LINE_BYTES"
  | .maxOutstanding => "DIRSESS_MAX_OUTSTANDING"
  | .operationDelay => "DIRSESS_OPERATION_DELAY_MS"
  | .logLevel => "DIRSESS_LOG_LEVEL"
  | .logJson => "DIRSESS_LOG_JSON"

/-- What a setting can be. -/
inductive Kind where
  | text
  | flag
  /-- A whole number: up to `word` in the file, and between the bounds in a variable. -/
  | number (word least most : Nat)

def kind : Setting → Kind
  | .host => .text
  | .port => .number 65535 0 65535
  | .allowAnonymous => .flag
  | .providerUrl => .text
  | .maxLineBytes => .number maxWord 64 16777216
  | .maxOutstanding => .number maxWord 1 100000
  | .operationDelay => .number maxWord 0 600000
  | .logLevel => .text
  | .logJson => .flag

/-- The text is the word, but for the case of ASCII letters. -/
def IsWord (t word : String) : Prop := t.toList.map Char.toLower = word.toList

namespace Kind

/-- The value in the file is one that the setting can be. -/
def Typed : Kind → Value → Prop
  | .text, v => ∃ s, v = .string s
  | .flag, v => ∃ b, v = .bool b
  | .number word _ _, v => ∃ n, n ≤ word ∧ v = .ofNat n

/-- The text of a variable stands for a value that the setting can be. -/
def Means : Kind → String → Value → Prop
  | .text, t, v => v = .string t
  | .flag, t, v =>
    (∃ w ∈ ["true", "1", "yes", "on"], IsWord t w) ∧ v = .bool true ∨
      (∃ w ∈ ["false", "0", "no", "off"], IsWord t w) ∧ v = .bool false
  | .number _ least most, t, v =>
    ∃ n, Decimal.Denotes t n ∧ least ≤ n ∧ n ≤ most ∧ v = .ofNat n

/-- The value that the text of a variable stands for, if there is one. -/
def read : Kind → String → Option Value
  | .text, t => some (.string t)
  | .flag, t => (Settings.readFlag t).map .bool
  | .number _ least most, t => (Decimal.readWordWithin 64 least most t).map .ofNat

end Kind

end Setting

/-! ## Reading a variable -/

theorem lowerChar_eq (c : Char) : Text.lowerChar c = c.toLower := by
  by_cases hc : 'A' ≤ c ∧ c ≤ 'Z'
  · have letters : ∀ i < 26,
        Text.lowerChar (Char.ofNat (65 + i)) = (Char.ofNat (65 + i)).toLower := by
      decide
    have hleast : 65 ≤ c.toNat := UInt32.le_iff_toNat_le.1 hc.1
    have hmost : c.toNat ≤ 90 := UInt32.le_iff_toNat_le.1 hc.2
    have hletter := letters (c.toNat - 65) (by omega)
    rw [Nat.add_sub_cancel' hleast, Char.ofNat_toNat] at hletter
    exact hletter
  · have hletter : ¬ (c.val ≥ 'A'.val ∧ c.val ≤ 'Z'.val) := hc
    rw [Text.lowerChar, if_neg hc]
    show c = dite (c.val ≥ 'A'.val ∧ c.val ≤ 'Z'.val) _ _
    rw [dif_neg hletter]

theorem isWord_iff {t word : String} : Setting.IsWord t word ↔ Text.lower t = word := by
  have hlower : Text.lowerChar = Char.toLower := funext lowerChar_eq
  rw [Setting.IsWord, Text.lower, hlower]
  constructor
  · intro h
    rw [h, String.ofList_toList]
  · rintro rfl
    rw [String.toList_ofList]

theorem isWord_mem {t : String} {words : List String} :
    (∃ w ∈ words, Setting.IsWord t w) ↔ Text.lower t ∈ words := by
  simp [isWord_iff]

namespace Setting

theorem read_flag {t : String} {v : Value} : Kind.flag.read t = some v ↔ Kind.flag.Means t v := by
  have hdisjoint : Text.lower t ∈ ["true", "1", "yes", "on"] →
      Text.lower t ∉ ["false", "0", "no", "off"] := by
    generalize Text.lower t = w
    intro hw
    simp only [List.mem_cons, List.not_mem_nil, or_false] at hw
    rcases hw with rfl | rfl | rfl | rfl <;> decide
  simp only [Kind.read, Kind.Means, isWord_mem, Settings.readFlag]
  split
  · next h => simp [h, hdisjoint h, eq_comm]
  · next h =>
    split
    · next h' => simp [h, h', eq_comm]
    · next h' => simp [h, h']

theorem read_number {word least most : Nat} (hmost : most < Nat.pow 2 64) {t : String} {v : Value} :
    (Kind.number word least most).read t = some v ↔ (Kind.number word least most).Means t v := by
  simp only [Kind.read, Kind.Means, Option.map_eq_some_iff, Decimal.readWordWithin_eq_some]
  constructor
  · rintro ⟨n, ⟨hn, -, hle, hge⟩, rfl⟩
    exact ⟨n, hn, hle, hge, rfl⟩
  · rintro ⟨n, hn, hle, hge, rfl⟩
    exact ⟨n, ⟨hn, Nat.lt_of_le_of_lt hge hmost, hle, hge⟩, rfl⟩

/-- A variable is read as the value that it stands for. -/
theorem read_eq_some (x : Setting) {t : String} {v : Value} :
    x.kind.read t = some v ↔ x.kind.Means t v := by
  have text : Kind.text.read t = some v ↔ Kind.text.Means t v := by
    simp [Kind.read, Kind.Means, eq_comm]
  cases x with
  | host => exact text
  | port => exact read_number (by decide)
  | allowAnonymous => exact read_flag
  | providerUrl => exact text
  | maxLineBytes => exact read_number (by decide)
  | maxOutstanding => exact read_number (by decide)
  | operationDelay => exact read_number (by decide)
  | logLevel => exact text
  | logJson => exact read_flag

end Setting

namespace Settings

def of (s : Settings) : Setting → Value
  | .host => .string s.host
  | .port => .ofNat s.port
  | .allowAnonymous => .bool s.allowAnonymous
  | .providerUrl => .string s.providerUrl
  | .maxLineBytes => .ofNat s.maxLineBytes
  | .maxOutstanding => .ofNat s.maxOutstanding
  | .operationDelay => .ofNat s.operationDelay
  | .logLevel => .string s.logLevel
  | .logJson => .bool s.logJson

/-- The settings with one of them replaced, if it can be that. -/
def set (s : Settings) (x : Setting) (v : Value) : Settings :=
  match x, v with
  | .host, .string t => { s with host := t }
  | .port, .number (.integer n) => { s with port := n.toNat }
  | .allowAnonymous, .bool b => { s with allowAnonymous := b }
  | .providerUrl, .string t => { s with providerUrl := t }
  | .maxLineBytes, .number (.integer n) => { s with maxLineBytes := n.toNat }
  | .maxOutstanding, .number (.integer n) => { s with maxOutstanding := n.toNat }
  | .operationDelay, .number (.integer n) => { s with operationDelay := n.toNat }
  | .logLevel, .string t => { s with logLevel := t }
  | .logJson, .bool b => { s with logJson := b }
  | _, _ => s

theorem of_set_self (s : Settings) {x : Setting} {v : Value} (h : x.kind.Typed v) :
    (s.set x v).of x = v := by
  cases x <;> obtain ⟨a, h⟩ := h <;> first | (cases h; rfl) | (obtain ⟨-, rfl⟩ := h; rfl)

theorem of_set_ne (s : Settings) {x y : Setting} (h : y ≠ x) (v : Value) :
    (s.set x v).of y = s.of y := by
  unfold set
  split <;> cases y <;> first | rfl | exact absurd rfl h

theorem ext_of {s s' : Settings} (h : ∀ x, s.of x = s'.of x) : s = s' := by
  have number : ∀ {n n' : Nat}, Value.ofNat n = .ofNat n' → n = n' := by
    intro n n' h
    simp only [Value.ofNat, Value.number.injEq, Number.integer.injEq] at h
    omega
  cases s
  cases s'
  have hport := number (h .port)
  have hbytes := number (h .maxLineBytes)
  have houtstanding := number (h .maxOutstanding)
  have hdelay := number (h .operationDelay)
  cases h .host
  cases h .allowAnonymous
  cases h .providerUrl
  cases h .logLevel
  cases h .logJson
  subst hport hbytes houtstanding hdelay
  rfl

theorem put_eq_ok (s : Settings) (x : Setting) {n : Node} {v : Value} (hn : n.Spells v)
    (s' : Settings) : put s x.key n = .ok s' ↔ x.kind.Typed v ∧ s.set x v = s' := by
  have text : ∀ {f : String → Settings}, (∀ t, s.set x (.string t) = f t) →
      ((do return f (← n.readString)) = .ok s' ↔ Setting.Kind.text.Typed v ∧ s.set x v = s') := by
    intro f hf
    simp only [bind_eq_ok, hn.readString_eq_ok, pure_eq_ok, Setting.Kind.Typed, ← hf]
    grind
  have flag : ∀ {f : Bool → Settings}, (∀ b, s.set x (.bool b) = f b) →
      ((do return f (← n.readBool)) = .ok s' ↔ Setting.Kind.flag.Typed v ∧ s.set x v = s') := by
    intro f hf
    simp only [bind_eq_ok, hn.readBool_eq_ok, pure_eq_ok, Setting.Kind.Typed, ← hf]
    grind
  have number : ∀ (f : Nat → Settings) (k : IntegerKind) {word least most : Nat},
      (∀ i : Int, s.set x (.ofInt i) = f i.toNat) → k.least = 0 → k.greatest = word →
      ((do return f (← n.readInteger k).toNat) = .ok s' ↔
        (Setting.Kind.number word least most).Typed v ∧ s.set x v = s') := by
    intro f k word least most hf hleast hgreatest
    simp only [bind_eq_ok, hn.readInteger_eq_ok, pure_eq_ok, Setting.Kind.Typed, hleast, hgreatest,
      ← hf]
    constructor
    · rintro ⟨i, ⟨rfl, hle, hge⟩, rfl⟩
      refine ⟨⟨i.toNat, by omega, ?_⟩, rfl⟩
      rw [Value.ofNat, Int.toNat_of_nonneg hle, Value.ofInt]
    · rintro ⟨⟨m, hm, rfl⟩, rfl⟩
      exact ⟨m, ⟨rfl, by omega, by omega⟩, rfl⟩
  cases x with
  | host => exact text fun _ => rfl
  | port => exact number (fun n => { s with port := n }) .u16 (fun _ => rfl) rfl rfl
  | allowAnonymous => exact flag fun _ => rfl
  | providerUrl => exact text fun _ => rfl
  | maxLineBytes =>
      exact number (fun n => { s with maxLineBytes := n }) .usize (fun _ => rfl) rfl rfl
  | maxOutstanding =>
      exact number (fun n => { s with maxOutstanding := n }) .usize (fun _ => rfl) rfl rfl
  | operationDelay =>
      exact number (fun n => { s with operationDelay := n }) .u64 (fun _ => rfl) rfl rfl
  | logLevel => exact text fun _ => rfl
  | logJson => exact flag fun _ => rfl

/-! ## Filling settings -/

/-- The settings with those replaced for which there is a value. -/
def fill (g : Setting → Option Value) (xs : List Setting) (s : Settings) : Settings :=
  xs.foldl (fun s x => match g x with
    | some v => s.set x v
    | none => s) s

theorem of_fill {g : Setting → Option Value} (hg : ∀ x v, g x = some v → x.kind.Typed v)
    {xs : List Setting} (hxs : xs.Nodup) (s : Settings) (x : Setting) :
    (fill g xs s).of x = if x ∈ xs then (g x).getD (s.of x) else s.of x := by
  induction xs generalizing s with
  | nil => rfl
  | cons y xs ih =>
      obtain ⟨hy, hxs⟩ := List.nodup_cons.1 hxs
      have hstep : ∀ s', (fill g (y :: xs) s) = fill g xs s' →
          s'.of x = (if x = y then (g x).getD (s.of x) else s.of x) →
          (fill g (y :: xs) s).of x = if x ∈ y :: xs then (g x).getD (s.of x) else s.of x := by
        intro s' heq hs'
        rw [heq, ih hxs, hs']
        grind
      cases hgy : g y with
      | none =>
          refine hstep s (by simp [fill, hgy]) ?_
          split
          · next hxy => rw [hxy, hgy]; rfl
          · rfl
      | some v =>
          refine hstep (s.set y v) (by simp [fill, hgy]) ?_
          split
          · next hxy => rw [hxy, hgy, of_set_self s (hg y v hgy)]; rfl
          · next hxy => exact of_set_ne s hxy v

end Settings

namespace Setting

theorem all_nodup : all.Nodup := by decide

theorem mem_all (x : Setting) : x ∈ all := by
  cases x <;> decide

theorem key_injective {x y : Setting} (h : x.key = y.key) : x = y := by
  cases x <;> cases y <;> first | rfl | exact absurd h (by decide)

theorem of_fill_all {g : Setting → Option Value} (hg : ∀ x v, g x = some v → x.kind.Typed v)
    (s : Settings) (x : Setting) : (Settings.fill g all s).of x = (g x).getD (s.of x) := by
  rw [Settings.of_fill hg all_nodup, if_pos (mem_all x)]

/-! ## The environment -/

/-- The variable of a setting is set, and not empty. -/
def GivenAs (env : Settings.Environment) (x : Setting) (t : String) : Prop :=
  env x.envKey = some t ∧ t ≠ ""

/-- What a variable stands for, if it is given and stands for anything. -/
def fromEnv (env : Settings.Environment) (x : Setting) : Option Value :=
  ((env x.envKey).filter fun t => !t.isEmpty).bind x.kind.read

theorem fromEnv_eq_some {env : Settings.Environment} {x : Setting} {v : Value} :
    x.fromEnv env = some v ↔ ∃ t, x.GivenAs env t ∧ x.kind.Means t v := by
  simp [fromEnv, GivenAs, Option.bind_eq_some_iff, Option.filter_eq_some_iff, read_eq_some]

instance (x : Setting) (t : String) : Decidable (∃ v, x.kind.Means t v) :=
  decidable_of_iff ((x.kind.read t).isSome = true) <| by
    simp only [Option.isSome_iff_exists, read_eq_some]

/-- The variable of a setting with its value, if it is given and stands for nothing. -/
def rejected? (env : Settings.Environment) (x : Setting) : Option Settings.Rejected :=
  match env x.envKey with
  | some t => if t = "" ∨ ∃ v, x.kind.Means t v then none else some ⟨x.envKey, t⟩
  | none => none

/-- The variables that are ignored, in order. -/
def rejected (env : Settings.Environment) : List Settings.Rejected := all.filterMap (rejected? env)

/-- Everything that a variable stands for is something that the setting can be. -/
theorem typed_of_means {x : Setting} {t : String} {v : Value} (h : x.kind.Means t v) :
    x.kind.Typed v := by
  have text : Kind.text.Means t v → Kind.text.Typed v := fun h => ⟨t, h⟩
  have flag : Kind.flag.Means t v → Kind.flag.Typed v := by
    rintro (⟨-, h⟩ | ⟨-, h⟩)
    · exact ⟨true, h⟩
    · exact ⟨false, h⟩
  have number : ∀ {word least most : Nat}, most ≤ word →
      (Kind.number word least most).Means t v → (Kind.number word least most).Typed v := by
    rintro word least most hle ⟨n, -, -, hn, h⟩
    exact ⟨n, Nat.le_trans hn hle, h⟩
  cases x with
  | host => exact text h
  | port => exact number (by decide) h
  | allowAnonymous => exact flag h
  | providerUrl => exact text h
  | maxLineBytes => exact number (by decide) h
  | maxOutstanding => exact number (by decide) h
  | operationDelay => exact number (by decide) h
  | logLevel => exact text h
  | logJson => exact flag h

/-- The override applies the variable of the setting. -/
structure AppliedBy (x : Setting) (o : Settings.Override) : Prop where
  key : o.key = x.envKey
  apply : ∀ t s, o.apply t s = (x.kind.read t).map (s.set x)

theorem readWord_port (t : String) :
    Decimal.readWord 16 t = Decimal.readWordWithin 64 0 65535 t := by
  have hword : Nat.pow 2 16 = 65536 := rfl
  have hlong : Nat.pow 2 64 = 18446744073709551616 := rfl
  ext n
  rw [Decimal.readWord_eq_some, Decimal.readWordWithin_eq_some, hword, hlong]
  exact and_congr_right fun _ => by omega

theorem forall₂_appliedBy : List.Forall₂ AppliedBy all Settings.overrides := by
  have number : ∀ {o : Option Nat} {f : Nat → Settings} {x : Setting} {s : Settings},
      (∀ n, s.set x (.ofNat n) = f n) → o.map f = (o.map Value.ofNat).map (s.set x) := by
    intro o f x s hf
    cases o <;> simp [hf]
  have flag : ∀ {o : Option Bool} {f : Bool → Settings} {x : Setting} {s : Settings},
      (∀ b, s.set x (.bool b) = f b) → o.map f = (o.map Value.bool).map (s.set x) := by
    intro o f x s hf
    cases o <;> simp [hf]
  refine .cons ⟨rfl, fun _ _ => rfl⟩ (.cons ⟨rfl, fun t s => ?_⟩ (.cons ⟨rfl, fun t s => ?_⟩
    (.cons ⟨rfl, fun _ _ => rfl⟩ (.cons ⟨rfl, fun t s => ?_⟩ (.cons ⟨rfl, fun t s => ?_⟩
    (.cons ⟨rfl, fun t s => ?_⟩ (.cons ⟨rfl, fun _ _ => rfl⟩ (.cons ⟨rfl, fun t s => ?_⟩
    .nil))))))))
  · show (Decimal.readWord 16 t).map _ = _
    rw [readWord_port]
    exact number fun _ => rfl
  · exact flag fun _ => rfl
  · exact number fun _ => rfl
  · exact number fun _ => rfl
  · exact number fun _ => rfl
  · exact flag fun _ => rfl

theorem foldl_applyOverride (env : Settings.Environment) {xs : List Setting}
    {os : List Settings.Override} (h : List.Forall₂ AppliedBy xs os) (s : Settings)
    (rs : List Settings.Rejected) :
    os.foldl (Settings.applyOverride env) (s, rs) =
      (Settings.fill (fromEnv env) xs s, rs ++ xs.filterMap (rejected? env)) := by
  induction h generalizing s rs with
  | nil => simp [Settings.fill]
  | @cons x o xs os ho _ ih =>
      have hstep : Settings.applyOverride env (s, rs) o =
          (Settings.fill (fromEnv env) [x] s, rs ++ (rejected? env x).toList) := by
        unfold Settings.applyOverride
        rw [ho.key]
        cases henv : env x.envKey with
        | none => simp [Settings.fill, fromEnv, rejected?, henv]
        | some t =>
            by_cases ht : t = ""
            · simp [Settings.fill, fromEnv, rejected?, henv, ht, Option.filter]
            · have hmeans : (∃ v, x.kind.Means t v) ↔ (x.kind.read t).isSome = true := by
                simp only [Option.isSome_iff_exists, read_eq_some]
              cases hread : x.kind.read t <;>
                simp [Settings.fill, fromEnv, rejected?, henv, ht, ho.apply, hread, hmeans,
                  Option.filter]
      rw [List.foldl_cons, hstep, ih]
      cases hrejected : rejected? env x <;> simp [Settings.fill, hrejected]

theorem applyOverrides_eq (env : Settings.Environment) (s : Settings) :
    Settings.applyOverrides env s = (Settings.fill (fromEnv env) all s, rejected env) :=
  foldl_applyOverride env forall₂_appliedBy s []

end Setting

/-! ## The file -/

namespace Setting

/-- What the file says of a setting: the last value under its key, unless that is null. -/
def fileValue? (ms : Members) (x : Setting) : Option Value :=
  (ms.valuesOf x.key).getLast?.filter fun v => !v.isNull

/-- Everything that the file says of a setting is something that the setting can be. -/
def AllTyped (ms : Members) : Prop := ∀ x v, fileValue? ms x = some v → x.kind.Typed v

theorem typed_default (x : Setting) : x.kind.Typed (Settings.default.of x) := by
  have number : ∀ {word least most n : Nat}, n ≤ word →
      (Kind.number word least most).Typed (.ofNat n) := fun h => ⟨_, h, rfl⟩
  cases x with
  | host => exact ⟨_, rfl⟩
  | port => exact number (by decide)
  | allowAnonymous => exact ⟨_, rfl⟩
  | providerUrl => exact ⟨_, rfl⟩
  | maxLineBytes => exact number (by decide)
  | maxOutstanding => exact number (by decide)
  | operationDelay => exact number (by decide)
  | logLevel => exact ⟨_, rfl⟩
  | logJson => exact ⟨_, rfl⟩

theorem Kind.Typed.scalar {k : Kind} {v : Value} (h : k.Typed v) : ∃ s : Scalar, v = s.toValue := by
  cases k with
  | text => exact ⟨.string _, h.choose_spec⟩
  | flag => exact ⟨.bool _, h.choose_spec⟩
  | number word least most => exact ⟨.number (.integer _), h.choose_spec.2⟩

theorem typed_folded {k : Kind} {v : Value} : k.Typed v.folded ↔ k.Typed v := by
  constructor
  · intro h
    obtain ⟨s, hs⟩ := h.scalar
    rw [hs] at h
    rw [folded_eq_toValue.1 hs]
    exact h
  · intro h
    obtain ⟨s, rfl⟩ := h.scalar
    rw [s.folded_toValue]
    exact h

theorem Kind.Typed.folded_eq {k : Kind} {v : Value} (h : k.Typed v) : v.folded = v := by
  obtain ⟨s, rfl⟩ := h.scalar
  exact s.folded_toValue

theorem overlay_default (x : Setting) (v : Value) : (Settings.default.of x).overlay v = v := by
  cases v <;> cases x <;> rfl

end Setting

namespace Settings

def look (s : Settings) (key : String) : Value := (s.toMembers.get? key).getD .null

theorem look_key (s : Settings) (x : Setting) : s.look x.key = s.of x := by
  cases x <;> rfl

theorem has_iff {key : String} : shape.has key = true ↔ ∃ x : Setting, x.key = key := by
  have hfields : shape.fields = Setting.all.map fun x => (x.key, false) := rfl
  rw [Shape.has_iff, hfields]
  simp [Setting.mem_all]

theorem stores : Stores shape put (fun _ => True) look
    (fun key v => ∃ x : Setting, x.key = key ∧ x.kind.Typed v) where
  put_sound := by
    intro s key n v s' _ hkey hn hput
    obtain ⟨x, rfl⟩ := has_iff.1 hkey
    obtain ⟨htype, rfl⟩ := (put_eq_ok s x hn s').1 hput
    refine ⟨⟨x, rfl, htype⟩, trivial, ?_, fun key' hkey' hne => ?_⟩
    · rw [look_key, of_set_self s htype]
    · obtain ⟨y, rfl⟩ := has_iff.1 hkey'
      have hyx : y ≠ x := fun h => hne (h ▸ rfl)
      rw [look_key, look_key, of_set_ne s hyx]
  put_total := by
    intro s key n v _ hkey hn htype
    obtain ⟨x, rfl, htype⟩ := htype
    exact ⟨_, (put_eq_ok s x hn _).2 ⟨htype, rfl⟩⟩
  ext := by
    intro s s' _ _ hlook
    refine ext_of fun x => ?_
    rw [← look_key, ← look_key]
    exact hlook x.key (has_iff.2 ⟨x, rfl⟩)

/-- What is found where the settings file should be holds an object with these members,
in order and with repetitions; nothing at all counts as one without members. -/
def FileContent.Holds : FileContent → Members → Prop
  | .missing, ms => ms = []
  | .text t, ms => HoldsObject t ms
  | .unreadable _, _ => False

/-- The members of the file over the defaults. -/
def mergedMembers (ms : Members) : Members :=
  Value.overlayMembers (Members.ofList default.toMembers)
    (Members.ofList (Value.foldedMembers ms))

theorem mergedLayers_eq {file : FileContent} {ms : Members} (h : file.Holds ms) :
    mergedLayers file = .ok (.object (mergedMembers ms)) := by
  cases file with
  | missing =>
      cases h
      rfl
  | unreadable e => exact h.elim
  | text t =>
      obtain ⟨v, hv⟩ := h.readable
      obtain ⟨-, rfl⟩ := (h.spells.readValue_eq_ok 0 v).1 (Json.readText_eq_ok.1 hv).1
      rw [mergedLayers, hv]
      rfl

theorem ascending_mergedMembers (ms : Members) : (mergedMembers ms).Ascending :=
  Members.ascending_overlayMembers (Members.ascending_ofList _) _

/-- Under the key of a setting is what the file says of it, or else its default. -/
theorem get?_mergedMembers (ms : Members) (x : Setting) :
    (mergedMembers ms).get? x.key =
      some (((x.fileValue? ms).map Value.folded).getD (default.of x)) := by
  have hdefault : Members.valuesOf default.toMembers x.key = [default.of x] := by
    cases x <;> rfl
  have hnull : ∀ v : Value, v.folded.isNull = v.isNull := fun v => by cases v <;> rfl
  rw [mergedMembers, Members.get?_overlayMembers _ (Members.ascending_ofList _),
    Members.get?_ofList, Members.get?_ofList, Members.valuesOf_foldedMembers, hdefault,
    List.getLast?_map, Setting.fileValue?]
  cases (ms.valuesOf x.key).getLast? with
  | none => rfl
  | some v => by_cases hv : v.isNull = true <;>
      simp [Option.filter_some, hnull, hv, Setting.overlay_default]

theorem ofFile_eq_ok_merged {file : FileContent} {ms : Members} (h : file.Holds ms)
    (s : Settings) : ofFile file = .ok s ↔
      ∀ x : Setting, (mergedMembers ms).get? x.key = some (s.of x) ∧ x.kind.Typed (s.of x) := by
  simp only [ofFile, mergedLayers_eq h, bind_eq_ok, Except.ok.injEq, exists_eq_left',
    mapError_eq_ok, readFrom, ofNode, Value.toNode, Node.readRecord,
    stores.readMembers_eq_ok trivial, true_and,
    Members.valuesOf_of_ascending (ascending_mergedMembers ms)]
  constructor
  · intro hall x
    obtain ⟨f, hf, hkey⟩ := Shape.has_iff.1 (has_iff.2 ⟨x, rfl⟩)
    have hfield := hall f hf
    rw [hkey, look_key] at hfield
    obtain ⟨hnone, -⟩ | ⟨hvalue, y, hy, htype⟩ := hfield
    · rw [get?_mergedMembers] at hnone
      exact absurd hnone (List.cons_ne_nil _ _)
    · exact ⟨by simpa using hvalue, Setting.key_injective hy ▸ htype⟩
  · intro hall f hf
    obtain ⟨x, hx⟩ := has_iff.1 (Shape.has_iff.2 ⟨f, hf, rfl⟩)
    obtain ⟨hvalue, htype⟩ := hall x
    rw [← hx, look_key, hvalue]
    exact .inr ⟨rfl, x, rfl, htype⟩

/-- The settings in a file are the values that it gives, or else the defaults, if those
values are what the settings can be. -/
theorem ofFile_eq_ok {file : FileContent} {ms : Members} (h : file.Holds ms) (s : Settings) :
    ofFile file = .ok s ↔
      Setting.AllTyped ms ∧ ∀ x, s.of x = (x.fileValue? ms).getD (default.of x) := by
  simp only [ofFile_eq_ok_merged h, get?_mergedMembers, Option.some.injEq]
  constructor
  · intro hall
    refine ⟨fun x v hv => ?_, fun x => ?_⟩
    · obtain ⟨hof, htype⟩ := hall x
      rw [← hof, hv] at htype
      exact Setting.typed_folded.1 htype
    · obtain ⟨hof, htype⟩ := hall x
      cases hv : x.fileValue? ms with
      | none => rw [← hof, hv]; rfl
      | some v =>
          rw [← hof, hv] at htype
          rw [← hof, hv]
          exact (Setting.typed_folded.1 htype).folded_eq
  · rintro ⟨htyped, hof⟩ x
    cases hv : x.fileValue? ms with
    | none =>
        rw [hof x, hv]
        exact ⟨rfl, Setting.typed_default x⟩
    | some v =>
        rw [hof x, hv]
        exact ⟨(htyped x v hv).folded_eq, htyped x v hv⟩

/-- Members that say the same of every setting are read to the same effect, be it an error. -/
theorem ofFile_congr {file file' : FileContent} {ms ms' : Members} (h : file.Holds ms)
    (h' : file'.Holds ms') (heq : ∀ x : Setting, x.fileValue? ms' = x.fileValue? ms) :
    ofFile file' = ofFile file := by
  have hknown : shape.known (mergedMembers ms') = shape.known (mergedMembers ms) := by
    refine Members.ascending_ext ((ascending_mergedMembers ms').filter _)
      ((ascending_mergedMembers ms).filter _) fun key => ?_
    by_cases hkey : shape.has key = true
    · obtain ⟨x, rfl⟩ := has_iff.1 hkey
      rw [Shape.get?_known hkey, Shape.get?_known hkey, get?_mergedMembers, get?_mergedMembers,
        heq]
    · rw [Shape.get?_known_of_not hkey, Shape.get?_known_of_not hkey]
  simp only [ofFile, mergedLayers_eq h, mergedLayers_eq h']
  show (readFrom (.object _) ofNode).mapError _ = (readFrom (.object _) ofNode).mapError _
  simp only [readFrom, ofNode, Value.toNode, Node.readRecord]
  rw [← readMembers_known, hknown, readMembers_known]

/-! ## Loading -/

theorem validate_eq_ok {s : Settings} {u : Unit} :
    s.validate = .ok u ↔ 1 ≤ s.maxOutstanding ∧ 64 ≤ s.maxLineBytes := by
  unfold validate leastLineBytes
  split
  · simp_all
  · split
    · simp_all
    · simp_all
      omega

/-- What a setting is when the environment is laid over the file, and the file over the
defaults: the first of these that says anything of it that it can be. -/
inductive Layered (env : Environment) (ms : Members) (x : Setting) (v : Value) : Prop where
  | environment {t : String} (given : x.GivenAs env t) (means : x.kind.Means t v)
  | file (unset : ∀ t w, x.GivenAs env t → ¬ x.kind.Means t w) (written : x.fileValue? ms = some v)
  | default (unset : ∀ t w, x.GivenAs env t → ¬ x.kind.Means t w)
      (silent : x.fileValue? ms = none) (value : v = default.of x)

theorem layered_iff {env : Environment} {ms : Members} {x : Setting} {v : Value} :
    Layered env ms x v ↔
      v = (x.fromEnv env).getD ((x.fileValue? ms).getD (default.of x)) := by
  have hunset : x.fromEnv env = none ↔ ∀ t w, x.GivenAs env t → ¬ x.kind.Means t w := by
    simp only [Option.eq_none_iff_forall_not_mem, Option.mem_def, Setting.fromEnv_eq_some]
    grind
  constructor
  · rintro (⟨hgiven, hmeans⟩ | ⟨hnone, hwritten⟩ | ⟨hnone, hsilent, hvalue⟩)
    · rw [Setting.fromEnv_eq_some.2 ⟨_, hgiven, hmeans⟩]
      rfl
    · rw [hunset.2 hnone, hwritten]
      rfl
    · rw [hunset.2 hnone, hsilent]
      exact hvalue
  · rintro rfl
    cases hv : x.fromEnv env with
    | some v =>
        obtain ⟨t, hgiven, hmeans⟩ := Setting.fromEnv_eq_some.1 hv
        exact .environment hgiven hmeans
    | none =>
        cases hw : x.fileValue? ms with
        | some w => exact .file (hunset.1 hv) hw
        | none => exact .default (hunset.1 hv) hw rfl

/-- Over settings read from the file, the environment makes the layered ones. -/
theorem of_applyOverrides {env : Environment} {ms : Members} {s : Settings}
    (hs : ∀ x, s.of x = (x.fileValue? ms).getD (default.of x)) (x : Setting) :
    Layered env ms x ((applyOverrides env s).1.of x) := by
  have htyped : ∀ x v, Setting.fromEnv env x = some v → x.kind.Typed v := by
    intro x v hv
    obtain ⟨t, -, hmeans⟩ := Setting.fromEnv_eq_some.1 hv
    exact Setting.typed_of_means hmeans
  rw [layered_iff, Setting.applyOverrides_eq, Setting.of_fill_all htyped, hs]

/-- For every file that holds an object, and every environment: the settings are loaded
exactly if what the file gives for each of them, unless it is null, is what it can be, and
the layered settings allow a request and a line; those are what is loaded, and the
variables that stand for nothing are reported in order.  There are layered settings for
every file of which the first is true.  Nothing else that stands in the file matters, to
the settings or to what is wrong with them. -/
theorem load_iff_layered (env : Environment) {file : FileContent} {ms : Members}
    (h : file.Holds ms) :
    (∀ s rejected, load file env = .ok (s, rejected) ↔
      Setting.AllTyped ms ∧ (∀ x, Layered env ms x (s.of x)) ∧
        (1 ≤ s.maxOutstanding ∧ 64 ≤ s.maxLineBytes) ∧ rejected = Setting.rejected env) ∧
      (Setting.AllTyped ms → ∃ s : Settings, ∀ x, Layered env ms x (s.of x)) ∧
      ∀ file' ms', FileContent.Holds file' ms' →
        (∀ x : Setting, x.fileValue? ms' = x.fileValue? ms) → load file' env = load file env := by
  have hrejected : ∀ s, (applyOverrides env s).2 = Setting.rejected env := fun s => by
    rw [Setting.applyOverrides_eq]
  have layers : Setting.AllTyped ms → ∃ s, ofFile file = .ok s ∧
      ∀ x, Layered env ms x ((applyOverrides env s).1.of x) := by
    intro htyped
    have hs : ∀ x, (Settings.fill (Setting.fileValue? ms) Setting.all default).of x =
        (x.fileValue? ms).getD (default.of x) := Setting.of_fill_all htyped default
    exact ⟨_, (ofFile_eq_ok h _).2 ⟨htyped, hs⟩, of_applyOverrides hs⟩
  refine ⟨fun s rejected => ?_, fun htyped => ?_, fun file' ms' h' heq => ?_⟩
  · simp only [load, bind_eq_ok, pure_eq_ok, validate_eq_ok, exists_const]
    constructor
    · rintro ⟨s₀, hs₀, hvalid, heq⟩
      obtain ⟨rfl, rfl⟩ := Prod.mk.injEq .. ▸ heq
      obtain ⟨htyped, hof⟩ := (ofFile_eq_ok h s₀).1 hs₀
      exact ⟨htyped, of_applyOverrides hof, hvalid, hrejected s₀⟩
    · rintro ⟨htyped, hlayered, hvalid, rfl⟩
      obtain ⟨s₀, hs₀, hlayered₀⟩ := layers htyped
      have hs : (applyOverrides env s₀).1 = s := ext_of fun x =>
        (layered_iff.1 (hlayered₀ x)).trans (layered_iff.1 (hlayered x)).symm
      exact ⟨s₀, hs₀, hs ▸ hvalid, Prod.ext hs (hrejected s₀)⟩
  · obtain ⟨s, -, hs⟩ := layers htyped
    exact ⟨_, hs⟩
  · rw [load, load, ofFile_congr h h' heq]

/-- The members of a file: one key comes twice, one is of no setting, one value is null,
and one is too small for a server. -/
def fileMembers : Members :=
  [("port", .ofNat 1), ("colour", .array [.null]), ("port", .ofNat 2), ("host", .null),
    ("log_level", .string "debug"), ("max_line_bytes", .ofNat 32)]

/-- An environment with a value that makes up for the file, one that is none for its
setting, an empty one, and one in capitals. -/
def environment : Environment
  | "DIRSESS_MAX_LINE_BYTES" => some "4096"
  | "DIRSESS_PORT" => some "70000"
  | "DIRSESS_LOG_LEVEL" => some ""
  | "DIRSESS_ALLOW_ANONYMOUS" => some "OFF"
  | _ => none

/-- What is loaded of these. -/
theorem loaded_from_three_layers :
    FileContent.Holds (.text (Value.object fileMembers).text) fileMembers ∧
      load (.text (Value.object fileMembers).text) environment =
        .ok ({ default with
            port := 2, logLevel := "debug", maxLineBytes := 4096, allowAnonymous := false },
          [⟨"DIRSESS_PORT", "70000"⟩]) := by
  have hexact : Value.ExactMembers fileMembers := by
    simp [fileMembers, Value.ExactMembers, Value.ExactItems, Value.Exact, Value.ofNat,
      Number.Exact]
  have hholds : FileContent.Holds (.text (Value.object fileMembers).text) fileMembers :=
    holdsObject_text hexact (.inr (by decide))
  refine ⟨hholds, ((load_iff_layered environment hholds).1 _ _).2
    ⟨?_, fun x => layered_iff.2 ?_, ⟨by decide, by decide⟩, by decide +kernel⟩⟩
  · intro x v hv
    cases x <;> cases hv
    · exact ⟨2, by decide, rfl⟩
    · exact ⟨32, by decide, rfl⟩
    · exact ⟨_, rfl⟩
  · cases x <;> rfl

end Settings

end DirectorySessions
