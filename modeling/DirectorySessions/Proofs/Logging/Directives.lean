/-
# The last directive for a module

Levels are written as one filter, a directive for each entry of the list, and of several
directives for a module the last one counts (`lastDirective`).  A change of level puts the
level in the first entry for the module.  So the last setting is the one that counts as
long as the module was not listed twice from the start; where it was, changes do not
reach the directive that counts.

A comma ends a directive.  So a name with a comma in it is the name of no module, and the
parts of it may be directives for others (`HasNoSay`).

## What is assumed

The name has no comma in it, and no other name that is listed or set has a say about the
module.  Both are needed: a name that holds `other=debug` after a comma would write a
directive for another module.  What can be read as a filter is a parameter, and so are the
list to begin with and the changes, which may fail or not: a change counts among the
levels either way.
-/
import DirectorySessions.Proofs.Logging.Levels

namespace DirectorySessions

namespace LogFilter

/-! ## Directives in a filter as it is written -/

def directiveText (module : String) (level : LogLevel) : String :=
  module ++ "=" ++ level.name

/-- Is a directive one for this module?  It is the bare name, or the name, an equals sign and
whatever follows. -/
def isFor (module : String) (directive : List Char) : Bool :=
  decide (directive = module.toList) || (module.toList ++ ['=']).isPrefixOf directive

/-- The directives for a module in a filter as it is written. -/
def directivesFor (module filter : String) : List (List Char) :=
  (Text.cutAt ',' filter.toList).filter (isFor module)

/-- The last directive for a module in a filter as it is written. -/
def lastDirective (module filter : String) : Option String :=
  (directivesFor module filter).getLast?.map String.ofList

/-- A name has no say about a module if none of the directives that it comes to is one for
the module. -/
def HasNoSay (name module : String) : Prop :=
  ∀ level, directivesFor module (directiveText name level) = []

theorem toList_directiveText (module : String) (level : LogLevel) :
    (directiveText module level).toList = module.toList ++ '=' :: level.name.toList := by
  simp [directiveText]

theorem isFor_directiveText (module : String) (level : LogLevel) :
    isFor module (directiveText module level).toList = true := by
  simp [isFor, toList_directiveText]

theorem comma_not_mem_name (level : LogLevel) : ',' ∉ level.name.toList := by
  cases level <;> decide

theorem cutAt_directiveText {module : String} (h : ',' ∉ module.toList) (level : LogLevel) :
    Text.cutAt ',' (directiveText module level).toList =
      [(directiveText module level).toList] := by
  refine Text.cutAt_eq_self ?_
  simp [toList_directiveText, h, comma_not_mem_name]

/-- Names of modules, which have neither commas nor equals signs, have no say about each
other. -/
theorem hasNoSay_of_plain {name module : String} (hne : name ≠ module)
    (hcomma : ',' ∉ name.toList) (hequals : '=' ∉ name.toList) (hmodule : '=' ∉ module.toList) :
    HasNoSay name module := by
  intro level
  rw [directivesFor, cutAt_directiveText hcomma, List.filter_eq_nil_iff]
  intro d hd
  obtain rfl := List.mem_singleton.1 hd
  rw [isFor, toList_directiveText, Bool.or_eq_true, decide_eq_true_eq,
    List.isPrefixOf_iff_prefix]
  rintro (heq | ⟨rest, hrest⟩)
  · exact hmodule (heq ▸ List.mem_append_right _ List.mem_cons_self)
  · -- both are what stands before the first equals sign
    have hcut := congrArg (Text.cutAt '=') hrest
    rw [List.append_assoc, List.singleton_append, Text.cutAt_append hmodule,
      Text.cutAt_append hequals] at hcut
    exact hne (String.toList_inj.1 (List.cons.inj hcut).1.symm)

/-- A filter comes to the directives of its entries, after the base level. -/
theorem cutAt_filterDirectives (base : LogLevel) (ms : ModuleLevels) :
    Text.cutAt ',' (filterDirectives base ms).toList =
      base.name.toList :: ms.flatMap fun m => Text.cutAt ',' (directiveText m.1 m.2).toList := by
  have hwritten : (filterDirectives base ms).toList =
      base.name.toList ++ ms.flatMap fun m => ',' :: (directiveText m.1 m.2).toList := by
    simp [filterDirectives, String.toList_join, List.flatMap_map, directiveText]
  have hcut : ∀ (text : List Char) (ms : ModuleLevels),
      Text.cutAt ',' (text ++ ms.flatMap fun m => ',' :: (directiveText m.1 m.2).toList) =
        Text.cutAt ',' text ++
          ms.flatMap fun m => Text.cutAt ',' (directiveText m.1 m.2).toList := by
    intro text ms
    induction ms generalizing text with
    | nil => simp
    | cons m ms ih =>
        rw [List.flatMap_cons, List.flatMap_cons, List.cons_append, Text.cutAt_append_mark, ih]
  rw [hwritten, hcut, Text.cutAt_eq_self (comma_not_mem_name base)]
  rfl

/-- The directives for a module are those of its entries, unless other names have a say about
it. -/
theorem directivesFor_filterDirectives {module : String} (hcomma : ',' ∉ module.toList)
    (base : LogLevel) {ms : ModuleLevels}
    (hothers : ∀ name ∈ ms.map Prod.fst, name ≠ module → HasNoSay name module) :
    directivesFor module (filterDirectives base ms) =
      [base.name.toList].filter (isFor module) ++
        (ms.levelsOf module).map fun level => (directiveText module level).toList := by
  have hentries : (ms.flatMap fun m => Text.cutAt ',' (directiveText m.1 m.2).toList).filter
      (isFor module) =
        (ms.levelsOf module).map fun level => (directiveText module level).toList := by
    induction ms with
    | nil => rfl
    | cons m ms ih =>
        obtain ⟨name, level⟩ := m
        obtain ⟨hname, hothers⟩ := List.forall_mem_cons.1 hothers
        rw [List.flatMap_cons, List.filter_append, ih hothers, ModuleLevels.levelsOf_cons]
        split
        · next heq =>
          subst heq
          rw [cutAt_directiveText hcomma, List.filter_cons_of_pos (isFor_directiveText name level)]
          rfl
        · next hne =>
          have hnone := hname hne level
          rw [directivesFor] at hnone
          rw [hnone]
          rfl
  rw [directivesFor, cutAt_filterDirectives, ← List.singleton_append, List.filter_append,
    hentries]

end LogFilter

namespace LogControl

open LogFilter

/-! ## The last setting -/

/-- For whatever can be read as a filter, every control and all changes, and a module whose
name has no comma in it and about which no other name that is listed or set has a say.  If
the module is set, and was listed once at most, its last directive is the one for the level
that it was set to last; if it was listed more than once, its last directive stays as it
was.  If it is not set, its last directive stays too. -/
theorem last_setting_counts_unless_listed_twice (read : String → Option LogFilter)
    (c : LogControl) (changes : List (String × LogLevel)) {module : String}
    (hcomma : ',' ∉ module.toList)
    (hothers : ∀ name, name ∈ c.modules.map Prod.fst ∨ name ∈ changes.map Prod.fst →
      name ≠ module → HasNoSay name module) :
    (∀ level, (ModuleLevels.levelsOf changes module).getLast? = some level →
      lastDirective module (c.setAll read changes).directives =
        if (c.modules.levelsOf module).length ≤ 1 then some (directiveText module level)
        else lastDirective module c.directives) ∧
      (module ∉ changes.map Prod.fst →
        lastDirective module (c.setAll read changes).directives =
          lastDirective module c.directives) := by
  obtain ⟨hmodules, hbase, -⟩ := setAll_modules read c changes
  have hbefore := directivesFor_filterDirectives hcomma c.base fun name hname =>
    hothers name (.inl hname)
  have hafter := directivesFor_filterDirectives hcomma c.base fun name hname =>
    hothers name (ModuleLevels.mem_modules_putAll.1 hname)
  have hlevels := ModuleLevels.levelsOf_putAll c.modules changes module
  simp only [lastDirective, LogControl.directives, hmodules, hbase, hbefore, hafter]
  refine ⟨fun level hlast => ?_, fun hunset => ?_⟩
  · rw [hlast] at hlevels
    -- the level is put in the first entry, which is also the last one if it is the only one
    match hlisted : c.modules.levelsOf module with
    | [] => simp [hlevels, hlisted, String.ofList_toList]
    | [l] => simp [hlevels, hlisted, String.ofList_toList]
    | l :: l' :: ls => simp [hlevels, hlisted, List.getLast?_cons]
  · rw [ModuleLevels.levelsOf_eq_nil hunset] at hlevels
    rw [hlevels]
    rfl

def otherTwice : ModuleLevels := [("dirsess", .info), ("other", .debug), ("other", .error)]

def threeChanged : List (String × LogLevel) :=
  [("dirsess", .trace), ("other", .trace), ("dirsess", .warn), ("tokio", .error)]

/-- A module listed once has the level set last; one listed twice has the level that it had. -/
theorem set_once_and_twice_listed :
    (',' ∉ "dirsess".toList ∧ ',' ∉ "other".toList) ∧
      (∀ name, name ∈ otherTwice.map Prod.fst ∨ name ∈ threeChanged.map Prod.fst →
        (name ≠ "dirsess" → HasNoSay name "dirsess") ∧
          (name ≠ "other" → HasNoSay name "other")) ∧
      lastDirective "dirsess" ((start none .info otherTwice).setAll LogFilter.read
        threeChanged).directives = some "dirsess=warn" ∧
      lastDirective "other" ((start none .info otherTwice).setAll LogFilter.read
        threeChanged).directives = some "other=error" := by
  have hplain : ∀ name ∈ ["dirsess", "other", "tokio"],
      ',' ∉ name.toList ∧ '=' ∉ name.toList := by decide
  have hnames : ∀ name, name ∈ otherTwice.map Prod.fst ∨ name ∈ threeChanged.map Prod.fst →
      name ∈ ["dirsess", "other", "tokio"] := by
    simp only [otherTwice, threeChanged]
    grind
  have hsay : ∀ name, name ∈ otherTwice.map Prod.fst ∨ name ∈ threeChanged.map Prod.fst →
      ∀ module ∈ ["dirsess", "other", "tokio"], name ≠ module → HasNoSay name module :=
    fun name hname module hmodule hne => hasNoSay_of_plain hne (hplain _ (hnames _ hname)).1
      (hplain _ (hnames _ hname)).2 (hplain _ hmodule).2
  have hdirsess := (last_setting_counts_unless_listed_twice LogFilter.read
    (start none .info otherTwice) threeChanged (hplain "dirsess" (by decide)).1
    fun name hname => hsay name hname "dirsess" (by decide)).1 .warn rfl
  have hother := (last_setting_counts_unless_listed_twice LogFilter.read
    (start none .info otherTwice) threeChanged (hplain "other" (by decide)).1
    fun name hname => hsay name hname "other" (by decide)).1 .trace rfl
  refine ⟨by decide, fun name hname => ⟨hsay name hname _ (by decide),
    hsay name hname _ (by decide)⟩, hdirsess, hother.trans ?_⟩
  decide +kernel

/-- A module that is listed twice and set keeps the level that it was listed with last, in the
filter as written and in force; and a name with a comma in it sets a module that was
never set. -/
theorem setting_misses_its_module :
    let twice := (start none .info [("other", .debug), ("other", .error)]).setAll LogFilter.read
      [("other", .trace)]
    lastDirective "other" twice.directives = some "other=error" ∧
      twice.filter.limit "other" = some .error ∧
      lastDirective "other" ((start none .info [("other", .debug)]).setAll
        LogFilter.read [("x,other", .trace)]).directives = some "other=trace" := by
  decide +kernel

end LogControl

end DirectorySessions
