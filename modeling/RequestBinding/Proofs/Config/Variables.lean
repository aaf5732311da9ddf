import RequestBinding.Proofs.Config.Override

/-!
# Variables as overrides

Variables are taken one at a time, in the order in which the environment happens to list them,
and each of them changes the configuration that the next one finds. Still the order does not
matter when their names are distinct: no two settings have the same variable, so that each
variable decides on one setting, and the others neither see nor touch it (`Overridden`).

A loader only notes the word of its variables. Until it loads, layers and the word are apart,
so that it makes no difference when variables are asked for (`Loader.build_eq_withWord`).

Results:
1. `Setting.variable_injective`: a variable has one setting.
2. `Setting.eq_variable_iff`: which names are variables of settings, by their parts.
3. `Configuration.applyVariables_ok_iff`: what variables make of a configuration.
4. `Loader.build_eq_withWord`: layers and variables are apart until the end.
5. `Loader.load_variables`: the configuration that is loaded.
-/

namespace RequestBinding

/-! ## Names of variables -/

/-- What stands between two underscores each, from the left. -/
def jointParts : List Char → List (List Char)
  | '_' :: '_' :: rest => [] :: jointParts rest
  | c :: rest => (jointParts rest).modifyHead (c :: ·)
  | [] => [[]]

theorem jointParts_ne_nil (cs : List Char) : jointParts cs ≠ [] := by
  induction cs using jointParts.induct with
  | case1 rest ih => exact List.cons_ne_nil _ _
  | case2 c rest hjoint ih =>
    rw [jointParts]
    · rwa [ne_eq, List.modifyHead_eq_nil_iff]
    · exact hjoint
  | case3 => exact List.cons_ne_nil _ _

theorem intercalate_modifyHead {sep : List Char} {ps : List (List Char)} (h : ps ≠ []) (c : Char) :
    sep.intercalate (ps.modifyHead (c :: ·)) = c :: sep.intercalate ps := by
  cases ps with
  | nil => exact absurd rfl h
  | cons p rest =>
    cases rest with
    | nil => simp [List.intercalate]
    | cons q qs => simp [List.intercalate]

/-- The parts make up the whole again. -/
theorem intercalate_jointParts (cs : List Char) :
    variableJoint.toList.intercalate (jointParts cs) = cs := by
  induction cs using jointParts.induct with
  | case1 rest ih =>
    rw [jointParts]
    obtain ⟨p, ps, hparts⟩ := List.exists_cons_of_ne_nil (jointParts_ne_nil rest)
    rw [hparts] at ih ⊢
    exact congrArg ('_' :: '_' :: ·) ih
  | case2 c rest hjoint ih =>
    rw [jointParts]
    · rw [intercalate_modifyHead (jointParts_ne_nil rest), ih]
    · exact hjoint
  | case3 => rfl

namespace Setting

variable {word : String} {s t : Setting}

/-- What the name of a variable has behind the word. -/
def variableEnd (s : Setting) : List Char :=
  s.sectionOf.name.toList.map Char.toUpper ++ variableJoint.toList ++
    s.name.toList.map Char.toUpper

theorem toList_variable (word : String) (s : Setting) :
    (s.variable word).toList = (word ++ variableJoint).toList ++ s.variableEnd := by
  simp only [Setting.variable, variablePart, variableEnd, String.toList_append,
    String.toList_ofList, List.append_assoc]

theorem nodup_variableEnd : (all.map variableEnd).Nodup := by decide +kernel

/-- No two settings have the same variable. -/
theorem variable_injective (h : s.variable word = t.variable word) : s = t := by
  rw [← String.toList_inj, toList_variable, toList_variable] at h
  exact List.inj_on_of_nodup_map nodup_variableEnd s.mem_all t.mem_all
    (List.append_cancel_left h)

theorem ofVariable?_variable (word : String) (s : Setting) :
    ofVariable? word (s.variable word) = some s := by
  obtain ⟨t, ht⟩ : ∃ t, ofVariable? word (s.variable word) = some t :=
    Option.isSome_iff_exists.mp (List.find?_isSome.mpr ⟨s, s.mem_all, beq_self_eq_true _⟩)
  have hname : t.variable word = s.variable word :=
    beq_iff_eq.mp (List.find?_some (p := fun t : Setting => t.variable word == s.variable word) ht)
  rw [ht, variable_injective hname]

theorem eq_variable_of_ofVariable? {name : String} (h : ofVariable? word name = some s) :
    name = s.variable word :=
  (beq_iff_eq.mp (List.find?_some (p := fun t : Setting => t.variable word == name) h)).symm

theorem isUnder_variable (word : String) (s : Setting) : isUnder word (s.variable word) = true := by
  rw [isUnder, List.isPrefixOf_iff_prefix, toList_variable]
  exact List.prefix_append _ _

/-- Behind the word stand the section and the name of the setting, and nothing else. -/
theorem jointParts_variableEnd (s : Setting) :
    jointParts s.variableEnd =
      [(variablePart s.sectionOf.name).toList, (variablePart s.name).toList] := by
  have hall : ∀ s ∈ all, jointParts s.variableEnd =
      [s.sectionOf.name.toList.map Char.toUpper, s.name.toList.map Char.toUpper] := by
    decide +kernel
  rw [variablePart, variablePart, String.toList_ofList, String.toList_ofList]
  exact hall s s.mem_all

/-- A name has two parts behind the word, which are the section and the name of the setting. -/
def IsNamed (s : Setting) (word name : String) : Prop :=
  ∃ rest, name.toList = (word ++ variableJoint).toList ++ rest ∧
    jointParts rest = [(variablePart s.sectionOf.name).toList, (variablePart s.name).toList]

/-- The variable of a setting is the only name with these parts. -/
theorem eq_variable_iff {name : String} : name = s.variable word ↔ s.IsNamed word name := by
  constructor
  · rintro rfl
    exact ⟨s.variableEnd, toList_variable word s, s.jointParts_variableEnd⟩
  · rintro ⟨rest, hname, hparts⟩
    have hrest : rest = s.variableEnd := by
      rw [← intercalate_jointParts rest, hparts, ← s.jointParts_variableEnd,
        intercalate_jointParts]
    rw [← String.toList_inj, hname, hrest, toList_variable]

end Setting

/-! ## Variables over a configuration -/

/-- A configuration with the values that variables give, if their names are distinct: a setting
whose variable is there has the value that is written there, and any other setting has the
value that it had. -/
structure Overridden (word : String) (vars : List Variable) (c c' : Configuration) : Prop where
  given : ∀ (s : Setting) (text : String), (s.variable word, text) ∈ vars →
    s.type.ofText text = .ok (c'.get s)
  kept : ∀ s : Setting, (∀ text, (s.variable word, text) ∉ vars) → c'.get s = c.get s

namespace Overridden

variable {word : String} {vars vars' : List Variable} {c c' c'' : Configuration}

theorem unique (h : Overridden word vars c c') (h' : Overridden word vars c c'') : c' = c'' := by
  refine Configuration.eq_of_get fun s => ?_
  by_cases hs : ∃ text, (s.variable word, text) ∈ vars
  · obtain ⟨text, htext⟩ := hs
    exact Except.ok.inj ((h.given s text htext).symm.trans (h'.given s text htext))
  · rw [not_exists] at hs
    rw [h.kept s hs, h'.kept s hs]

/-- Only the variables that are there matter. -/
theorem congr (hsame : ∀ (s : Setting) (text : String),
      (s.variable word, text) ∈ vars ↔ (s.variable word, text) ∈ vars')
    (h : Overridden word vars c c') : Overridden word vars' c c' where
  given s text htext := h.given s text ((hsame s text).mpr htext)
  kept s hs := h.kept s fun text htext => hs text ((hsame s text).mp htext)

theorem nil_iff : Overridden word [] c c' ↔ c' = c := by
  constructor
  · exact fun h => Configuration.eq_of_get fun s => h.kept s fun _ => List.not_mem_nil
  · rintro rfl
    exact ⟨fun s text h => absurd h List.not_mem_nil, fun s _ => rfl⟩

/-- The variable of a setting decides on it; the others find it decided. -/
theorem cons_iff {s : Setting} {text : String} {value : s.type.Value}
    (hvalue : s.type.ofText text = .ok value) (hs : ∀ text', (s.variable word, text') ∉ vars) :
    Overridden word ((s.variable word, text) :: vars) c c' ↔
      Overridden word vars (c.set s value) c' := by
  constructor
  · intro h
    refine ⟨fun t text' ht => h.given t text' (List.mem_cons_of_mem _ ht), fun t ht => ?_⟩
    by_cases hts : t = s
    · subst hts
      rw [Configuration.get_set_self]
      exact Except.ok.inj ((h.given t text List.mem_cons_self).symm.trans hvalue)
    · rw [Configuration.get_set_of_ne c hts]
      refine h.kept t fun text' hmem => ?_
      rcases List.mem_cons.mp hmem with heq | hmem
      · exact hts (Setting.variable_injective (congrArg Prod.fst heq))
      · exact ht text' hmem
  · intro h
    refine ⟨fun t text' hmem => ?_, fun t ht => ?_⟩
    · rcases List.mem_cons.mp hmem with heq | hmem
      · -- the rest says nothing of `s`, which keeps the value that was just set
        obtain rfl : t = s := Setting.variable_injective (congrArg Prod.fst heq)
        obtain rfl : text' = text := congrArg Prod.snd heq
        rw [h.kept t hs, Configuration.get_set_self, hvalue]
      · exact h.given t text' hmem
    · have hts : t ≠ s := by
        rintro rfl
        exact ht text List.mem_cons_self
      rw [h.kept t fun text' hmem => ht text' (List.mem_cons_of_mem _ hmem),
        Configuration.get_set_of_ne c hts]

end Overridden

namespace Configuration

variable {word : String} {c c' : Configuration} {vars : List Variable}

/-! ### One variable -/

/-- A variable belongs to a setting, or to none. -/
theorem named_or_unnamed (word : String) (v : Variable) :
    (∃ (s : Setting) (text : String), v = (s.variable word, text)) ∨
      ∀ s : Setting, v.1 ≠ s.variable word := by
  by_cases h : ∃ s : Setting, v.1 = s.variable word
  · obtain ⟨s, hs⟩ := h
    exact .inl ⟨s, v.2, Prod.ext hs rfl⟩
  · exact .inr (not_exists.mp h)

/-- A variable of no setting changes nothing. -/
theorem applyVariable_of_unnamed {v : Variable} (h : ∀ s : Setting, v.1 ≠ s.variable word)
    (c : Configuration) : (c.applyVariable word v).1 = .ok c := by
  rw [applyVariable]
  split
  · split
    · rfl
    · next s hs => exact absurd (Setting.eq_variable_of_ofVariable? hs) (h s)
  · rfl

theorem applyVariable_of_ok {s : Setting} {text : String} {value : s.type.Value}
    (h : s.type.ofText text = .ok value) (c : Configuration) :
    (c.applyVariable word (s.variable word, text)).1 = .ok (c.set s value) := by
  simp only [applyVariable, Setting.isUnder_variable, Setting.ofVariable?_variable, if_true, h]

theorem applyVariable_of_error {s : Setting} {text reason : String}
    (h : s.type.ofText text = .error reason) (c : Configuration) :
    (c.applyVariable word (s.variable word, text)).1 =
      .error (.invalidVariable (s.variable word) reason) := by
  simp only [applyVariable, Setting.isUnder_variable, Setting.ofVariable?_variable, if_true, h]

/-! ### Many of them -/

theorem applyVariables_cons_fst (word : String) (c : Configuration) (v : Variable)
    (rest : List Variable) :
    (c.applyVariables word (v :: rest)).1 =
      (c.applyVariable word v).1.bind fun c' => (c'.applyVariables word rest).1 := by
  rw [applyVariables]
  split
  · next e journal h => rw [h]; rfl
  · next c' journal h => rw [h]; rfl

theorem applyVariables_insert {v : Variable} (h : ∀ s : Setting, v.1 ≠ s.variable word)
    (c : Configuration) (before after : List Variable) :
    (c.applyVariables word (before ++ v :: after)).1 =
      (c.applyVariables word (before ++ after)).1 := by
  induction before generalizing c with
  | nil =>
    rw [List.nil_append, List.nil_append, applyVariables_cons_fst, applyVariable_of_unnamed h]
    rfl
  | cons w before ih =>
    rw [List.cons_append, List.cons_append, applyVariables_cons_fst, applyVariables_cons_fst]
    exact congrArg _ (funext fun c' => ih c')

/-- Variables with distinct names make of a configuration what each of them says of its own
setting. -/
theorem applyVariables_ok_iff (hnames : (vars.map Prod.fst).Nodup) :
    (c.applyVariables word vars).1 = .ok c' ↔ Overridden word vars c c' := by
  -- each variable changes the configuration that the rest finds
  induction vars generalizing c with
  | nil => simp only [applyVariables, Except.ok.injEq, Overridden.nil_iff, eq_comm]
  | cons v rest ih =>
    rw [List.map_cons, List.nodup_cons] at hnames
    rw [applyVariables_cons_fst]
    rcases named_or_unnamed word v with ⟨s, text, rfl⟩ | hv
    · cases hvalue : s.type.ofText text with
      | ok value =>
        rw [applyVariable_of_ok hvalue]
        refine (ih hnames.2).trans (Overridden.cons_iff hvalue fun text' hmem => ?_).symm
        exact hnames.1 (List.mem_map.mpr ⟨(s.variable word, text'), hmem, rfl⟩)
      | error reason =>
        rw [applyVariable_of_error hvalue]
        refine iff_of_false nofun fun h => ?_
        cases hvalue.symm.trans (h.given s text List.mem_cons_self)
    · rw [applyVariable_of_unnamed hv]
      refine (ih hnames.2).trans ?_
      have hsame (s : Setting) (text : String) :
          (s.variable word, text) ∈ rest ↔ (s.variable word, text) ∈ v :: rest := by
        refine ⟨List.mem_cons_of_mem v, fun hmem => (List.mem_cons.mp hmem).resolve_left ?_⟩
        rintro rfl
        exact hv s rfl
      exact ⟨.congr hsame, .congr fun s text => (hsame s text).symm⟩

/-- Variables that can all be read are all taken. -/
theorem exists_applyVariables
    (hread : ∀ (s : Setting) (text : String), (s.variable word, text) ∈ vars →
      ∃ value, s.type.ofText text = .ok value)
    (c : Configuration) : ∃ c', (c.applyVariables word vars).1 = .ok c' := by
  induction vars generalizing c with
  | nil => exact ⟨c, rfl⟩
  | cons v rest ih =>
    have hrest := ih fun s text hmem => hread s text (List.mem_cons_of_mem v hmem)
    rw [applyVariables_cons_fst]
    rcases named_or_unnamed word v with ⟨s, text, rfl⟩ | hv
    · obtain ⟨value, hvalue⟩ := hread s text List.mem_cons_self
      rw [applyVariable_of_ok hvalue]
      exact hrest _
    · rw [applyVariable_of_unnamed hv]
      exact hrest c

end Configuration

/-! ## Loaders -/

/-- A call that builds a loader: it starts again from a configuration, lays text over it, or
asks for variables under a word. -/
inductive LoaderStep where
  | start (c : Configuration)
  | text (x : Layer)
  | ask (word : String)

namespace LoaderStep

/-- The word under which a step asks for variables. -/
def word? : LoaderStep → Option String
  | ask word => some word
  | _ => none

/-- The word under which variables are asked for last, in capitals. -/
def lastWord? (steps : List LoaderStep) : Option String :=
  (steps.filterMap word?).getLast?.map upperCase

theorem lastWord?_cons (s : LoaderStep) (steps : List LoaderStep) :
    lastWord? (s :: steps) = (lastWord? steps).or (s.word?.map upperCase) := by
  rw [lastWord?, lastWord?, List.filterMap_cons]
  cases s.word? with
  | none => exact Option.or_none.symm
  | some word =>
    rw [List.getLast?_cons]
    cases (steps.filterMap word?).getLast? with
    | none => rfl
    | some last => rfl

/-- The steps that do not ask for variables. -/
def layers (steps : List LoaderStep) : List LoaderStep :=
  steps.filter fun s => s.word?.isNone

theorem layers_cons_of_some {s : LoaderStep} {word : String} (h : s.word? = some word)
    (steps : List LoaderStep) : layers (s :: steps) = layers steps :=
  List.filter_cons_of_neg (by rw [h]; exact nofun)

theorem layers_cons_of_none {s : LoaderStep} (h : s.word? = none) (steps : List LoaderStep) :
    layers (s :: steps) = s :: layers steps :=
  List.filter_cons_of_pos (by rw [h]; rfl)

end LoaderStep

namespace Loader

variable {l : Loader} {word : String} {vars : List Variable}

/-- Makes a step. -/
def step (l : Loader) : LoaderStep → Except ConfigError Loader
  | .start c => .ok (l.withConfig c)
  | .text x => l.lay x
  | .ask word => .ok (l.withVariables word)

/-- Makes steps one after another. -/
def build (steps : List LoaderStep) (l : Loader) : Except ConfigError Loader :=
  steps.foldlM step l

/-- The loader with another word for variables, or with none. -/
def withWord (l : Loader) (word? : Option String) : Loader :=
  { l with word? := word? }

/-! ### The word of variables -/

theorem withText_withWord (l : Loader) (word? : Option String) (s format : String) :
    (l.withWord word?).withText s format = (l.withText s format).map (·.withWord word?) := by
  rw [withText, withText]
  cases DocumentFormat.ofName? format with
  | none => rfl
  | some f =>
    simp only [withWord]
    cases l.config.layer f s with
    | error e => rfl
    | ok c => rfl

/-- Only asking for variables looks at the word, or changes it. -/
theorem step_withWord {s : LoaderStep} (h : s.word? = none) (l : Loader)
    (word? : Option String) :
    (l.withWord word?).step s = (l.step s).map (·.withWord word?) := by
  cases s with
  | start c => rfl
  | text x => exact l.withText_withWord word? x.text x.format
  | ask word => cases h

theorem step_word? {s : LoaderStep} (hs : s.word? = none) {l m : Loader} (h : l.step s = .ok m) :
    m.word? = l.word? := by
  cases s with
  | start c =>
    cases h
    rfl
  | text x => exact lay_word? h
  | ask word => cases hs

theorem build_cons (s : LoaderStep) (steps : List LoaderStep) (l : Loader) :
    build (s :: steps) l = (l.step s).bind (build steps) := by
  rw [build, List.foldlM_cons]
  rfl

theorem build_layers_withWord (steps : List LoaderStep) (l : Loader) (word? : Option String) :
    build (LoaderStep.layers steps) (l.withWord word?) =
      (build (LoaderStep.layers steps) l).map (·.withWord word?) := by
  induction steps generalizing l with
  | nil => rfl
  | cons s rest ih =>
    cases hs : s.word? with
    | some word =>
      rw [LoaderStep.layers_cons_of_some hs]
      exact ih l
    | none =>
      rw [LoaderStep.layers_cons_of_none hs, build_cons, build_cons, step_withWord hs]
      cases l.step s with
      | error e => rfl
      | ok m => exact ih m

/-- Layers and the word of variables are apart: the steps that do not ask for variables make
the configuration, and the last one that does is the one that counts. -/
theorem build_eq_withWord (steps : List LoaderStep) (l : Loader) :
    build steps l = (build (LoaderStep.layers steps) l).map
      (·.withWord ((LoaderStep.lastWord? steps).or l.word?)) := by
  induction steps generalizing l with
  | nil => rfl
  | cons s rest ih =>
    rw [build_cons, LoaderStep.lastWord?_cons]
    cases hs : s.word? with
    | some word =>
      rw [LoaderStep.layers_cons_of_some hs]
      cases s with
      | ask word' =>
        cases hs
        -- the word is noted now, and replaced by a later one at the end
        have hnoted : l.step (.ask word) = .ok (l.withWord (some (upperCase word))) := rfl
        rw [hnoted, Except.bind, ih, build_layers_withWord]
        cases build (LoaderStep.layers rest) l with
        | error e => rfl
        | ok m =>
          rw [Option.or_assoc]
          rfl
      | _ => cases hs
    | none =>
      rw [LoaderStep.layers_cons_of_none hs, build_cons, Option.map_none, Option.or_none]
      cases hstep : l.step s with
      | error e => rfl
      | ok m =>
        rw [Except.bind, Except.bind, ih, step_word? hs hstep]

/-! ### Loading -/

theorem load_fst (hword : l.word? = some word) (vars : List Variable) :
    (l.load vars).1 =
      (l.config.applyVariables word vars).1.bind fun c => c.validate.map fun _ => c := by
  simp only [load, hword]
  cases (l.config.applyVariables word vars).1 with
  | error e => rfl
  | ok c =>
    simp only [Except.bind]
    cases c.validate with
    | error e => rfl
    | ok u => rfl

/-- What is loaded is the configuration with the values of its variables, if it is valid. -/
theorem load_ok_iff (hword : l.word? = some word) (hnames : (vars.map Prod.fst).Nodup)
    {c : Configuration} :
    (l.load vars).1 = .ok c ↔ Overridden word vars l.config c ∧ c.validate = .ok () := by
  rw [load_fst hword, ← Configuration.applyVariables_ok_iff hnames]
  cases (l.config.applyVariables word vars).1 with
  | error e => exact iff_of_false nofun fun h => nomatch h.1
  | ok c' =>
    rw [Except.bind]
    constructor
    · intro h
      cases hvalid : c'.validate with
      | error e =>
        rw [hvalid] at h
        cases h
      | ok u =>
        rw [hvalid] at h
        cases h
        exact ⟨rfl, hvalid⟩
    · rintro ⟨hsame, hvalid⟩
      cases hsame
      rw [hvalid]
      rfl

/-- Something is loaded exactly if all variables can be read, and what they make of the
configuration is valid. -/
theorem exists_load_iff (hword : l.word? = some word) (hnames : (vars.map Prod.fst).Nodup) :
    (∃ c, (l.load vars).1 = .ok c) ↔
      (∀ (s : Setting) (text : String), (s.variable word, text) ∈ vars →
        ∃ value, s.type.ofText text = .ok value) ∧
      ∀ c, Overridden word vars l.config c → c.validate = .ok () := by
  constructor
  · rintro ⟨c, hload⟩
    obtain ⟨hc, hvalid⟩ := (load_ok_iff hword hnames).mp hload
    exact ⟨fun s text hmem => ⟨_, hc.given s text hmem⟩, fun c' hc' => hc.unique hc' ▸ hvalid⟩
  · rintro ⟨hread, hvalid⟩
    obtain ⟨c, happly⟩ := Configuration.exists_applyVariables hread l.config
    have hc := (Configuration.applyVariables_ok_iff hnames).mp happly
    exact ⟨c, (load_ok_iff hword hnames).mpr ⟨hc, hvalid c hc⟩⟩

/-- The order of variables does not matter. -/
theorem load_perm (hword : l.word? = some word) (hnames : (vars.map Prod.fst).Nodup)
    {vars' : List Variable} (h : vars.Perm vars') (c : Configuration) :
    (l.load vars').1 = .ok c ↔ (l.load vars).1 = .ok c := by
  rw [load_ok_iff hword hnames, load_ok_iff hword ((h.map Prod.fst).nodup_iff.mp hnames)]
  refine and_congr_left fun _ => ⟨.congr ?_, .congr ?_⟩
  · exact fun s text => h.mem_iff.symm
  · exact fun s text => h.mem_iff

/-- A variable of no setting changes nothing, wherever it stands. -/
theorem load_insert (hword : l.word? = some word) {v : Variable}
    (h : ∀ s : Setting, ¬ s.IsNamed word v.1) (before after : List Variable) :
    (l.load (before ++ v :: after)).1 = (l.load (before ++ after)).1 := by
  rw [load_fst hword, load_fst hword, Configuration.applyVariables_insert]
  exact fun s hs => h s (Setting.eq_variable_iff.mp hs)

/-- However layers and words for variables follow each other, a loader is built from the layers
and the last word alone. The variables of that word are taken over all layers: a setting whose
variable is there has the value that is written there, any other setting keeps the value of the
layers, and the configuration that comes of this is given if it is valid. It is given exactly
if all of these variables can be read and it is valid, in whichever order the environment lists
them; a variable without the word, or with other parts behind it than the section and the name
of a setting, changes nothing. -/
theorem load_variables (steps : List LoaderStep) (vars : List Variable)
    (hnames : (vars.map Prod.fst).Nodup) :
    (∀ steps', LoaderStep.layers steps' = LoaderStep.layers steps →
      LoaderStep.lastWord? steps' = LoaderStep.lastWord? steps →
        build steps' {} = build steps {}) ∧
    ∀ l word, build steps {} = .ok l → LoaderStep.lastWord? steps = some word →
      build (LoaderStep.layers steps) {} = .ok ⟨l.config, none⟩ ∧
      (∀ c, (l.load vars).1 = .ok c ↔
        Overridden word vars l.config c ∧ c.validate = .ok ()) ∧
      ((∃ c, (l.load vars).1 = .ok c) ↔
        (∀ (s : Setting) (text : String), (s.variable word, text) ∈ vars →
          ∃ value, s.type.ofText text = .ok value) ∧
        ∀ c, Overridden word vars l.config c → c.validate = .ok ()) ∧
      (∀ vars', vars.Perm vars' → ∀ c, (l.load vars').1 = .ok c ↔ (l.load vars).1 = .ok c) ∧
      ∀ (v : Variable) (before after : List Variable), (∀ s : Setting, ¬ s.IsNamed word v.1) →
        (l.load (before ++ v :: after)).1 = (l.load (before ++ after)).1 := by
  constructor
  · intro steps' hlayers hlast
    rw [build_eq_withWord steps', build_eq_withWord steps, hlayers, hlast]
  · intro l word hbuilt hlast
    rw [build_eq_withWord, hlast] at hbuilt
    cases hlayers : build (LoaderStep.layers steps) {} with
    | error e =>
      rw [hlayers] at hbuilt
      cases hbuilt
    | ok m =>
      rw [hlayers] at hbuilt
      cases hbuilt
      have hword : (m.withWord ((some word).or none)).word? = some word := rfl
      refine ⟨?_, fun c => load_ok_iff hword hnames, exists_load_iff hword hnames,
        fun vars' h => load_perm hword hnames h, fun v before after h => load_insert hword h _ _⟩
      -- the layers note no word
      have hnone := build_layers_withWord steps {} none
      rw [show Loader.withWord {} none = {} from rfl, hlayers] at hnone
      exact hnone

/-- Two words are asked for around a layer: the last one counts, and its variables may stand
in any order, with one that has a part too many among them. -/
theorem load_variables_last_word :
    let steps : List LoaderStep := [.ask "app", .start .production,
      .text ⟨"[form_limits]\nvalue_count_limit = 8", "toml"⟩, .ask "svc",
      .text ⟨"[logging]", "toml"⟩]
    let vars : List Variable := [("SVC__LOGGING__LEVEL", "debug"), ("APP__LOGGING__LEVEL", "loud"),
      ("SVC__LOGGING__LEVEL__X", "loud"), ("SVC__FORM_LIMITS__KEY_LENGTH_LIMIT", " 12 ")]
    (vars.map Prod.fst).Nodup ∧ ∃ l c, build steps {} = .ok l ∧ (l.load vars).1 = .ok c ∧
      (l.load vars.reverse).1 = .ok c ∧ c.get .level = "debug" ∧
      c.get (.limit .keyLengthLimit) = 12 ∧
      c.get (.limit .valueCountLimit) = l.config.get (.limit .valueCountLimit) := by
  intro steps vars
  have hnames : (vars.map Prod.fst).Nodup := by decide +kernel
  have hok : ((build steps {}).bind fun l => (l.load vars).1).isOk = true := by decide +kernel
  have hlast : LoaderStep.lastWord? steps = some "SVC" := by decide +kernel
  cases hbuilt : build steps {} with
  | error e =>
    rw [hbuilt] at hok
    cases hok
  | ok l =>
    obtain ⟨-, hload, -, hperm, -⟩ := (load_variables steps vars hnames).2 l "SVC" hbuilt hlast
    cases hresult : (l.load vars).1 with
    | error e =>
      rw [hbuilt, Except.bind, hresult] at hok
      cases hok
    | ok c =>
      obtain ⟨hc, -⟩ := (hload c).mp hresult
      have hreversed := (hperm vars.reverse vars.reverse_perm.symm c).mpr hresult
      refine ⟨hnames, l, c, rfl, hresult, hreversed, ?_, ?_, ?_⟩
      · exact (Except.ok.inj (hc.given .level "debug" (by decide +kernel))).symm
      · have hread : SettingType.ofText .count " 12 " = .ok (12 : UInt64) := by decide +kernel
        have hgiven := hc.given (.limit .keyLengthLimit) " 12 " (by decide +kernel)
        exact Except.ok.inj (hgiven.symm.trans hread)
      · refine hc.kept (.limit .valueCountLimit) fun text hmem => ?_
        have habsent : Setting.variable "SVC" (.limit .valueCountLimit) ∉ vars.map Prod.fst := by
          decide +kernel
        exact habsent (List.mem_map_of_mem hmem)

end Loader

end RequestBinding
