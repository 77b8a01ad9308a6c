/-
# Changes of levels, one after the other

Whatever becomes of the filter, a change of a module's level is put among the levels
first (`setLevel_cases`).  So the levels after many changes are all those that were put,
the changes that failed included (`setAll_modules`), and a change that failed is part of
every filter that is written later.  It leaves no trace only where it said nothing new.

What can be read as a filter is a parameter, so nothing here depends on the grammar of
filters.  The statement is made for a change in the middle of others, after any number
of them and before any number, and compares what is done then with what would be done
had the failed change not been made.
-/
import DirectorySessions.Logging.Control

namespace DirectorySessions

namespace ModuleLevels

def putAll (ms : ModuleLevels) (changes : List (String × LogLevel)) : ModuleLevels :=
  changes.foldl (fun ms change => ms.put change.1 change.2) ms

/-- The levels that are listed for a module, in order. -/
def levelsOf (ms : ModuleLevels) (module : String) : List LogLevel :=
  (ms.filter fun m => decide (m.1 = module)).map Prod.snd

theorem put_cons (m : String) (l : LogLevel) (ms : ModuleLevels) (module : String)
    (level : LogLevel) : put ((m, l) :: ms) module level =
      if m = module then (m, level) :: ms else (m, l) :: ms.put module level := rfl

@[simp] theorem levelsOf_nil (module : String) : levelsOf [] module = [] := rfl

theorem levelsOf_cons (m : String) (l : LogLevel) (ms : ModuleLevels) (module : String) :
    levelsOf ((m, l) :: ms) module =
      if m = module then l :: ms.levelsOf module else ms.levelsOf module := by
  unfold levelsOf
  by_cases h : m = module <;> simp [h]

theorem levelsOf_eq_nil {ms : ModuleLevels} {module : String} (h : module ∉ ms.map Prod.fst) :
    ms.levelsOf module = [] := by
  rw [levelsOf, List.map_eq_nil_iff, List.filter_eq_nil_iff]
  intro m hm heq
  exact h (of_decide_eq_true heq ▸ List.mem_map_of_mem hm)

theorem putAll_cons (ms : ModuleLevels) (change : String × LogLevel)
    (changes : List (String × LogLevel)) :
    ms.putAll (change :: changes) = (ms.put change.1 change.2).putAll changes := rfl

theorem putAll_append (ms : ModuleLevels) (changes later : List (String × LogLevel)) :
    ms.putAll (changes ++ later) = (ms.putAll changes).putAll later :=
  List.foldl_append

/-- Nothing changes exactly if the first level listed for the module is this one already. -/
theorem put_eq_self_iff {ms : ModuleLevels} {module : String} {level : LogLevel} :
    ms.put module level = ms ↔ (ms.levelsOf module).head? = some level := by
  induction ms with
  | nil => simp [put]
  | cons m ms ih =>
      obtain ⟨k, l⟩ := m
      rw [put_cons, levelsOf_cons]
      by_cases h : k = module
      · simp [h, eq_comm]
      · simp [h, ih]

theorem mem_modules_put {ms : ModuleLevels} {module : String} {level : LogLevel} {m : String} :
    m ∈ (ms.put module level).map Prod.fst ↔ m = module ∨ m ∈ ms.map Prod.fst := by
  induction ms with
  | nil => simp [put]
  | cons m' ms ih =>
      obtain ⟨k, l⟩ := m'
      rw [put_cons]
      by_cases h : k = module
      · subst h
        simp
      · simp only [if_neg h, List.map_cons, List.mem_cons, ih]
        exact or_left_comm

theorem mem_modules_putAll {ms : ModuleLevels} {changes : List (String × LogLevel)} {m : String} :
    m ∈ (ms.putAll changes).map Prod.fst ↔ m ∈ ms.map Prod.fst ∨ m ∈ changes.map Prod.fst := by
  induction changes generalizing ms with
  | nil => simp [putAll]
  | cons change changes ih =>
      rw [putAll_cons, ih, mem_modules_put, List.map_cons, List.mem_cons]
      grind

/-- A change puts the level first among those that are listed for the module. -/
theorem levelsOf_put (ms : ModuleLevels) (name : String) (level : LogLevel) (module : String) :
    (ms.put name level).levelsOf module =
      if name = module then level :: (ms.levelsOf module).tail else ms.levelsOf module := by
  induction ms with
  | nil => simp [put, levelsOf_cons]
  | cons m ms ih =>
      obtain ⟨k, l⟩ := m
      rw [put_cons]
      by_cases hk : k = name
      · by_cases hm : name = module <;> simp [hk, hm, levelsOf_cons]
      · by_cases hm : name = module
        · subst hm
          simp [hk, levelsOf_cons, ih]
        · simp [hk, hm, levelsOf_cons, ih]

theorem levelsOf_putAll (ms : ModuleLevels) (changes : List (String × LogLevel))
    (module : String) :
    (ms.putAll changes).levelsOf module =
      match (levelsOf changes module).getLast? with
      | none => ms.levelsOf module
      | some level => level :: (ms.levelsOf module).tail := by
  induction changes generalizing ms with
  | nil => rfl
  | cons change changes ih =>
      obtain ⟨name, level⟩ := change
      rw [putAll_cons, ih, levelsOf_put, levelsOf_cons]
      by_cases hm : name = module
      · cases hlast : (levelsOf changes module).getLast? <;>
          simp [hm, List.getLast?_cons, hlast]
      · simp [hm]

end ModuleLevels

namespace LogControl

variable (read : String → Option LogFilter) (c : LogControl)

def setAll (changes : List (String × LogLevel)) : LogControl :=
  changes.foldl (fun c change => (c.setLevel read change.1 change.2).1) c

theorem setAll_cons (change : String × LogLevel) (changes : List (String × LogLevel)) :
    c.setAll read (change :: changes) =
      (c.setLevel read change.1 change.2).1.setAll read changes := rfl

theorem setAll_append (changes later : List (String × LogLevel)) :
    c.setAll read (changes ++ later) = (c.setAll read changes).setAll read later :=
  List.foldl_append

/-- What a change can come to.  The level is put in any case; a control in charge takes the
filter that results, unless that cannot be read. -/
theorem setLevel_cases (module : String) (level : LogLevel) :
    let put := { c with modules := c.modules.put module level }
    let written := filterDirectives c.base (c.modules.put module level)
    (c.inCharge = true ∧ ∃ f, read written = some f ∧
        c.setLevel read module level = ({ put with filter := f }, .ok ())) ∨
      (c.inCharge = true ∧ read written = none ∧
        c.setLevel read module level = (put, .error ⟨written⟩)) ∨
      (c.inCharge = false ∧ c.setLevel read module level = (put, .ok ())) := by
  intro put written
  unfold setLevel directives
  dsimp only
  by_cases hin : c.inCharge = true
  · rw [if_pos hin]
    cases hread : read written with
    | none => exact .inr (.inl ⟨hin, rfl, rfl⟩)
    | some f => exact .inl ⟨hin, f, rfl, rfl⟩
  · rw [if_neg hin]
    exact .inr (.inr ⟨Bool.eq_false_iff.2 hin, rfl⟩)

theorem setLevel_modules (module : String) (level : LogLevel) :
    (c.setLevel read module level).1.modules = c.modules.put module level ∧
      (c.setLevel read module level).1.base = c.base ∧
      (c.setLevel read module level).1.inCharge = c.inCharge := by
  obtain ⟨-, f, -, h⟩ | ⟨-, -, h⟩ | ⟨-, h⟩ := setLevel_cases read c module level
  all_goals exact h ▸ ⟨rfl, rfl, rfl⟩

/-- A control in charge fails to change a level exactly if the filter that results cannot be
read. -/
theorem setLevel_eq_error {module : String} {level : LogLevel} {e : BadFilter} :
    (c.setLevel read module level).2 = .error e ↔
      c.inCharge = true ∧ e = ⟨filterDirectives c.base (c.modules.put module level)⟩ ∧
        read e.directives = none := by
  obtain ⟨hin, f, hf, h⟩ | ⟨hin, hnone, h⟩ | ⟨hout, h⟩ := setLevel_cases read c module level
  · rw [h]
    constructor
    · nofun
    · rintro ⟨-, rfl, hnone⟩
      exact absurd (hf.symm.trans hnone) (Option.some_ne_none f)
  · rw [h]
    constructor
    · rintro ⟨⟩
      exact ⟨hin, rfl, hnone⟩
    · rintro ⟨-, rfl, -⟩
      rfl
  · simp [h, hout]

/-- Then the level is put all the same, and nothing else is changed. -/
theorem setLevel_of_error {module : String} {level : LogLevel} {e : BadFilter}
    (herr : (c.setLevel read module level).2 = .error e) :
    (c.setLevel read module level).1 = { c with modules := c.modules.put module level } := by
  obtain ⟨-, f, -, h⟩ | ⟨-, -, h⟩ | ⟨-, h⟩ := setLevel_cases read c module level
  · rw [h] at herr
    cases herr
  · rw [h]
  · rw [h]

theorem setLevel_eq_ok {module : String} {level : LogLevel} :
    (c.setLevel read module level).2 = .ok () ↔
      (c.inCharge = true →
        (read (filterDirectives c.base (c.modules.put module level))).isSome = true) := by
  obtain ⟨hin, f, hf, h⟩ | ⟨hin, hnone, h⟩ | ⟨hout, h⟩ := setLevel_cases read c module level
  · rw [h]
    exact iff_of_true rfl fun _ => Option.isSome_of_eq_some hf
  · rw [h]
    exact iff_of_false nofun fun hsome =>
      absurd (hsome hin) (Option.not_isSome_iff_eq_none.2 hnone)
  · rw [h]
    exact iff_of_true rfl fun hin => absurd (hout.symm.trans hin) Bool.false_ne_true

theorem setAll_modules (changes : List (String × LogLevel)) :
    (c.setAll read changes).modules = c.modules.putAll changes ∧
      (c.setAll read changes).base = c.base ∧
      (c.setAll read changes).inCharge = c.inCharge := by
  induction changes generalizing c with
  | nil => exact ⟨rfl, rfl, rfl⟩
  | cons change changes ih =>
      obtain ⟨hmodules, hbase, hcharge⟩ := setLevel_modules read c change.1 change.2
      rw [setAll_cons, ModuleLevels.putAll_cons, ← hmodules, ← hbase, ← hcharge]
      exact ih _

/-- A control in charge changes a level exactly if the filter of all levels that were ever put
can be read. -/
theorem change_succeeds_iff {c : LogControl} (hin : c.inCharge = true)
    (changes : List (String × LogLevel)) (module : String) (level : LogLevel) :
    ((c.setAll read changes).setLevel read module level).2 = .ok () ↔
      (read (filterDirectives c.base
        (c.modules.putAll (changes ++ [(module, level)])))).isSome = true := by
  obtain ⟨hmodules, hbase, hcharge⟩ := setAll_modules read c changes
  have hput : c.modules.putAll (changes ++ [(module, level)]) =
      (c.setAll read changes).modules.put module level := by
    rw [ModuleLevels.putAll_append, hmodules]
    rfl
  rw [setLevel_eq_ok, hbase, hcharge, hput]
  exact ⟨fun h => h hin, fun h _ => h⟩

/-- For whatever can be read as a filter, every control, all changes made so far, and one that
fails.  The filter that it came to cannot be read, and the one in force stays.  The levels
are as they were exactly if the first that was listed for the module is this one, and then
the control is as it was in every respect.  In any case the module is listed from then on, and
of all later changes those succeed whose filter can be read with the failed one in it; had
it not been made, those would whose filter can be read without it. -/
theorem failed_change_kept_unless_repeated (changes : List (String × LogLevel))
    {module : String} {level : LogLevel} {e : BadFilter}
    (herr : ((c.setAll read changes).setLevel read module level).2 = .error e) :
    let before := c.setAll read changes
    let after := (before.setLevel read module level).1
    (e.directives = filterDirectives c.base (before.modules.put module level) ∧
        read e.directives = none ∧ after.filter = before.filter) ∧
      (after.modules = before.modules ↔
        (before.modules.levelsOf module).head? = some level) ∧
      ((before.modules.levelsOf module).head? = some level → after = before) ∧
      ∀ later m l,
        module ∈ (after.setAll read later).modules.map Prod.fst ∧
          (((after.setAll read later).setLevel read m l).2 = .ok () ↔
            (read (filterDirectives c.base (c.modules.putAll
              (changes ++ (module, level) :: later ++ [(m, l)])))).isSome = true) ∧
          (((before.setAll read later).setLevel read m l).2 = .ok () ↔
            (read (filterDirectives c.base (c.modules.putAll
              (changes ++ later ++ [(m, l)])))).isSome = true) := by
  intro before after
  obtain ⟨-, hbase, hcharge⟩ := setAll_modules read c changes
  obtain ⟨hin, rfl, hread⟩ := (setLevel_eq_error read before).1 herr
  have hafter : after = { before with modules := before.modules.put module level } :=
    setLevel_of_error read before herr
  refine ⟨⟨by rw [hbase], hread, by rw [hafter]⟩, ?_, fun hhead => ?_, fun later m l => ?_⟩
  · rw [hafter]
    exact ModuleLevels.put_eq_self_iff
  · rw [hafter, ModuleLevels.put_eq_self_iff.2 hhead]
  · have hlisted : module ∈ after.modules.map Prod.fst := by
      rw [hafter]
      exact ModuleLevels.mem_modules_put.2 (.inl rfl)
    have hkept : module ∈ (after.setAll read later).modules.map Prod.fst := by
      rw [(setAll_modules read after later).1]
      exact ModuleLevels.mem_modules_putAll.2 (.inl hlisted)
    -- the run with the failed change, and the one without, both begin at the first control
    have hwith : after.setAll read later = c.setAll read (changes ++ (module, level) :: later) := by
      rw [setAll_append, setAll_cons]
    have hwithout : before.setAll read later = c.setAll read (changes ++ later) :=
      (setAll_append read c changes later).symm
    have hstart : c.inCharge = true := hcharge.symm.trans hin
    rw [hwith, hwithout]
    exact ⟨hwith ▸ hkept, change_succeeds_iff read hstart _ m l,
      change_succeeds_iff read hstart _ m l⟩

def traced : LogControl := (start none .info []).setAll LogFilter.read [("other", .trace)]

/-- A change that fails: it is no repetition, so it is kept, and what is set later fails too,
where it would succeed without it. -/
theorem refused_after_good_change :
    (traced.setLevel LogFilter.read "(" .debug).2 = .error ⟨"info,other=trace,(=debug"⟩ ∧
      (traced.setLevel LogFilter.read "(" .debug).1.filter = traced.filter ∧
      (traced.setLevel LogFilter.read "(" .debug).1.modules ≠ traced.modules ∧
      (((traced.setLevel LogFilter.read "(" .debug).1.setAll LogFilter.read
        [("other", .warn)]).setLevel LogFilter.read "dirsess" .info).2 ≠ .ok () ∧
      ((traced.setAll LogFilter.read [("other", .warn)]).setLevel LogFilter.read
        "dirsess" .info).2 = .ok () := by
  have hmodules : traced.modules = [("other", .trace)] := (setAll_modules ..).1
  have herr : (traced.setLevel LogFilter.read "(" .debug).2 =
      .error ⟨"info,other=trace,(=debug"⟩ :=
    (setLevel_eq_error ..).2
      ⟨(setAll_modules ..).2.2, by rw [hmodules]; decide +kernel, by decide +kernel⟩
  obtain ⟨⟨-, -, hfilter⟩, hrepeated, -, hlater⟩ :=
    failed_change_kept_unless_repeated LogFilter.read (start none .info []) [("other", .trace)] herr
  obtain ⟨-, hwith, hwithout⟩ := hlater [("other", .warn)] "dirsess" .info
  refine ⟨herr, hfilter, fun heq => ?_, fun hok => ?_, hwithout.2 ?_⟩
  · have hhead := hrepeated.1 heq
    rw [(setAll_modules ..).1] at hhead
    exact absurd hhead (by decide)
  · exact absurd (hwith.1 hok) (by decide +kernel)
  · decide +kernel

/-- A name that is no name is refused, and so is every good one after it, though it would be
taken alone. -/
theorem refused_name_spoils_later_changes :
    let c := LogControl.start none .info []
    let failed := c.setLevel LogFilter.read "(" .debug
    failed.2 = .error ⟨"info,(=debug"⟩ ∧ c.modules = [] ∧ failed.1.modules = [("(", .debug)] ∧
      (c.setLevel LogFilter.read "other" .trace).2 = .ok () ∧
      (failed.1.setLevel LogFilter.read "other" .trace).2 =
        .error ⟨"info,(=debug,other=trace"⟩ := by
  refine ⟨(setLevel_eq_error ..).2 ⟨rfl, ?_, ?_⟩, rfl, rfl, (setLevel_eq_ok ..).2 fun _ => ?_,
    (setLevel_eq_error ..).2 ⟨rfl, ?_, ?_⟩⟩
  all_goals decide +kernel

end LogControl

end DirectorySessions
