import PodSizing.Configuration
import PodSizing.Proofs.Configuration.Literal
import PodSizing.Proofs.Decision.Guarantee
import PodSizing.Proofs.Json.Faithful

/-!
# Namespace lists in the environment

Each list of a namespace filter has a variable, in which commas stand between the names.  A value
is first tried as a literal, and only a text that is none is split.  `loadWith_list` says what is
loaded where one list is all that the environment sets.  Names that are joined are found again in
a value that is no literal, and with a comma in it no value is one; a list of a single name, though,
is lost if the name reads as a flag or a number.
-/

namespace PodSizing.Configuration

open Json

/-- The lists of a namespace filter. -/
inductive NamespaceList where
  | included
  | excluded
  | system

namespace NamespaceList

/-- The key of the list in the table of namespaces. -/
def key : NamespaceList → String
  | included => "include"
  | excluded => "exclude"
  | system => "system"

/-- The setting that is the list. -/
def setting (list : NamespaceList) : String := "namespaces." ++ list.key

/-- The variable that holds the list. -/
def holder : NamespaceList → String
  | included => "RIGHTSIZER_NAMESPACES__INCLUDE"
  | excluded => "RIGHTSIZER_NAMESPACES__EXCLUDE"
  | system => "RIGHTSIZER_NAMESPACES__SYSTEM"

/-- The filter with other names in the list. -/
def write (list : NamespaceList) (names : List String) (filter : NamespaceFilter) :
    NamespaceFilter :=
  match list with
  | included => { filter with included := names }
  | excluded => { filter with excluded := names }
  | system => { filter with system := names }

theorem settingName?_holder (list : NamespaceList) :
    settingName? variablePrefix list.holder = some list.setting := by
  cases list <;> decide +kernel

theorem ofText_setting (list : NamespaceList) :
    Path.ofText list.setting = ⟨"namespaces", [.key list.key]⟩ := by
  cases list <;> decide +kernel

theorem keyForm_key (list : NamespaceList) : keyForm list.key = list.key := by
  cases list <;> decide +kernel

theorem mem_listSettings (list : NamespaceList) : list.setting ∈ listSettings := by
  cases list <;> decide +kernel

end NamespaceList

/-! ### Values -/

/-- No value of a variable is a table. -/
theorem fieldsOf_settingValue (name value : String) : fieldsOf (settingValue name value) = [] := by
  unfold settingValue
  split
  · rename_i literal found
    rcases literal?_cases found with ⟨flag, rfl⟩ | ⟨number, rfl⟩ <;> rfl
  · split <;> rfl

/-- Names without a comma are found again after they have been joined. -/
theorem names_intercalate {chosen : List String} (ne : chosen ≠ [])
    (noComma : ∀ name ∈ chosen, ',' ∉ name.toList) : names (",".intercalate chosen) = chosen := by
  have separated : ∀ text ∈ chosen.map String.toList, ',' ∉ text := by
    rintro text mem
    obtain ⟨name, nameMem, rfl⟩ := List.mem_map.mp mem
    exact noComma name nameMem
  have found := Text.pieces_intercalate (by simpa using ne) separated
  have joined : (",".intercalate chosen).toList = [','].intercalate (chosen.map String.toList) :=
    String.toList_intercalate
  rw [names, joined, found, List.map_map]
  exact (List.map_congr_left fun name _ => String.ofList_toList).trans (List.map_id _)

/-- Only a list of one name, which is a literal itself, is joined to a literal. -/
theorem isLiteral_intercalate_iff {chosen : List String} (ne : chosen ≠ []) :
    IsLiteral (",".intercalate chosen).toList ↔
      ∃ name, chosen = [name] ∧ IsLiteral name.toList := by
  match chosen, ne with
  | [name], _ =>
      rw [String.intercalate_singleton]
      constructor
      · exact fun isLiteral => ⟨name, rfl, isLiteral⟩
      · rintro ⟨_, ⟨⟩, isLiteral⟩
        exact isLiteral
  | first :: second :: rest, _ =>
      constructor
      · intro isLiteral
        exact absurd (by simp) isLiteral.comma_not_mem
      · rintro ⟨-, ⟨⟩, -⟩

/-- The text of a list is read as its names unless it is a literal. -/
theorem settingValue_list {value : String} (list : NamespaceList)
    (noLiteral : ¬ IsLiteral value.toList) :
    settingValue list.setting value = ofList .string (names value) := by
  rw [settingValue, Option.not_isSome_iff_eq_none.mp (mt isSome_literal?_iff.mp noLiteral)]
  exact if_pos (List.contains_iff_mem.mpr list.mem_listSettings)

/-! ### The tree of settings -/

/-- An environment in which one variable holds a setting. -/
theorem settings_append_cons {before after : Environment} {entry : String × String}
    (noSetting : ∀ other ∈ before ++ after, settingName? variablePrefix other.1 = none) :
    settings variablePrefix (before ++ entry :: after) = settings variablePrefix [entry] := by
  have none_of {part : Environment} (sub : ∀ other ∈ part, other ∈ before ++ after) :
      part.filterMap (setting? variablePrefix) = [] := by
    apply List.filterMap_eq_nil_iff.mpr
    intro other mem
    rw [setting?, noSetting other (sub other mem)]
    rfl
  rw [settings, settings, List.filterMap_append, List.filterMap_cons,
    none_of fun _ => List.mem_append_left after, none_of fun _ => List.mem_append_right before]
  rfl

theorem settings_holder (list : NamespaceList) (value : String) :
    settings variablePrefix [(list.holder, value)] =
      [(list.setting, settingValue list.setting value)] := by
  rw [settings, List.filterMap_cons, setting?, list.settingName?_holder]
  rfl

/-- A list alone, laid over nothing. -/
theorem overlay?_list (list : NamespaceList) {value : Json} (noTable : fieldsOf value = []) :
    overlay? (.object []) [(list.setting, value)] =
      some (.object [("namespaces", .object [(list.key, value)])]) := by
  have merged : merge none value = value := by
    cases value with
    | object fields =>
        obtain rfl : fields = [] := noTable
        rfl
    | _ => rfl
  have table : keyForm "namespaces" = "namespaces" := by decide +kernel
  show (put? (.ofText list.setting) value (.object [])).bind _ = _
  rw [put?, list.ofText_setting]
  simp [assign?, fieldsOf, table, list.keyForm_key, merged, insertField]

/-! ### Loading -/

/-- Settings of which a table of namespaces is all that is given. -/
theorem ofJsonWith?_namespaces (json : Json) :
    OperatorSettings.ofJsonWith? lenient (.object [("namespaces", json)]) =
      (NamespaceFilter.ofJsonWith? lenient json).map fun filter =>
        { OperatorSettings.default with namespaces := filter } := by
  cases read : NamespaceFilter.ofJsonWith? lenient json <;>
    simp [OperatorSettings.ofJsonWith?, Conversion.entries?, Json.entries?, withDefault,
      List.lookup_cons, read]

/-- A filter of which one list is all that is given. -/
theorem ofJsonWith?_list (list : NamespaceList) (value : Json) :
    NamespaceFilter.ofJsonWith? lenient (.object [(list.key, value)]) =
      (asList? text? value).map fun names => list.write names .default := by
  cases read : asList? text? value <;> cases list <;>
    simp [NamespaceFilter.ofJsonWith?, Conversion.entries?, Json.entries?, withDefault,
      List.lookup_cons, lenient, NamespaceList.key, NamespaceList.write, read]

/-- The default settings with other names in the list. -/
def NamespaceList.settings (list : NamespaceList) (names : List String) : OperatorSettings :=
  { OperatorSettings.default with namespaces := list.write names .default }

/-- No names are refused. -/
theorem NamespaceList.check_settings (list : NamespaceList) (names : List String) :
    (list.settings names).check = .ok () := by
  rw [OperatorSettings.check]
  show (do Policy.default.check; _) = _
  rw [Policy.check_default]
  rfl

/-- What is loaded where one list is all that the environment sets. -/
theorem loadWith_list (files : Files) (list : NamespaceList) {before after : Environment}
    (noSetting : ∀ other ∈ before ++ after, settingName? variablePrefix other.1 = none)
    (value : String) :
    loadWith files none (before ++ (list.holder, value) :: after) variablePrefix =
      (asList? text? (settingValue list.setting value)).elim (.error .unusable) fun names =>
        .ok (list.settings names) := by
  have laid := overlay?_list list (fieldsOf_settingValue list.setting value)
  have alone : tree files none (before ++ (list.holder, value) :: after) variablePrefix =
      .ok (.object [("namespaces", .object [(list.key, settingValue list.setting value)])]) := by
    have noFile : overlay? (.object []) [] = some (.object []) := rfl
    rw [tree, settings_append_cons noSetting, settings_holder]
    simp only [bind, Except.bind, pure, Except.pure, noFile, Option.bind_some, laid]
  rw [loadWith, alone]
  simp only [bind, Except.bind, ofJsonWith?_namespaces, ofJsonWith?_list]
  cases asList? text? (settingValue list.setting value) with
  | none => rfl
  | some names =>
      have checked := list.check_settings names
      rw [NamespaceList.settings] at checked
      simp only [Option.map_some, Option.elim_some, checked, NamespaceList.settings, pure,
        Except.pure]

section Survival

variable {files : Files} {list : NamespaceList} {before after : Environment} {value : String}
  (noSetting : ∀ other ∈ before ++ after, settingName? variablePrefix other.1 = none)

include noSetting

/-- A value that is a literal is refused. -/
theorem loadWith_list_of_isLiteral (isLiteral : IsLiteral value.toList) :
    loadWith files none (before ++ (list.holder, value) :: after) variablePrefix =
      .error .unusable := by
  obtain ⟨literal, found⟩ := Option.isSome_iff_exists.mp (isSome_literal?_iff.mpr isLiteral)
  have noList : asList? text? (settingValue list.setting value) = none := by
    rw [settingValue, found]
    rcases literal?_cases found with ⟨flag, rfl⟩ | ⟨number, rfl⟩ <;> rfl
  rw [loadWith_list files list noSetting, noList, Option.elim_none]

/-- Any other value is read as the names in it. -/
theorem loadWith_list_of_not_isLiteral (noLiteral : ¬ IsLiteral value.toList) :
    loadWith files none (before ++ (list.holder, value) :: after) variablePrefix =
      .ok (list.settings (names value)) := by
  have faithful : Faithful .string text? fun _ => True :=
    ⟨fun _ => .string _, fun _ => rfl, fun _ _ => trivial⟩
  rw [loadWith_list files list noSetting, settingValue_list list noLiteral,
    faithful.list.decode_encode fun _ _ => trivial, Option.elim_some]

end Survival

/-- A list of namespaces that is set in the environment is loaded, and nothing else is changed,
unless it has only one name and this reads as a flag or a number.  Such a list is refused, whichever
of the lists it is. -/
theorem namespace_list_survives_iff (files : Files) (list : NamespaceList)
    (before after : Environment)
    (noSetting : ∀ other ∈ before ++ after, settingName? variablePrefix other.1 = none)
    {chosen : List String} (ne : chosen ≠ []) (isName : ∀ name ∈ chosen, IsNamespaceName name) :
    (loadWith files none (before ++ (list.holder, ",".intercalate chosen) :: after)
        variablePrefix = .ok { OperatorSettings.default with
          namespaces := list.write chosen NamespaceFilter.default } ↔
      ¬ ∃ name, chosen = [name] ∧ ReadsAsLiteral name) ∧
    (loadWith files none (before ++ (list.holder, ",".intercalate chosen) :: after)
        variablePrefix = .error .unusable ↔ ∃ name, chosen = [name] ∧ ReadsAsLiteral name) := by
  have lost : IsLiteral (",".intercalate chosen).toList ↔
      ∃ name, chosen = [name] ∧ ReadsAsLiteral name := by
    rw [isLiteral_intercalate_iff ne]
    constructor
    · rintro ⟨name, rfl, isLiteral⟩
      exact ⟨name, rfl, (isName name (List.mem_singleton_self name)).isLiteral_iff.mp isLiteral⟩
    · rintro ⟨name, rfl, reads⟩
      exact ⟨name, rfl, (isName name (List.mem_singleton_self name)).isLiteral_iff.mpr reads⟩
  rw [← lost]
  by_cases isLiteral : IsLiteral (",".intercalate chosen).toList
  · rw [loadWith_list_of_isLiteral noSetting isLiteral]
    exact ⟨⟨nofun, absurd isLiteral⟩, ⟨fun _ => isLiteral, fun _ => rfl⟩⟩
  · have noComma : ∀ name ∈ chosen, ',' ∉ name.toList := fun name mem =>
      (isName name mem).not_mem_of_outside (by decide) (by decide)
    rw [loadWith_list_of_not_isLiteral noSetting isLiteral, names_intercalate ne noComma]
    exact ⟨⟨fun _ => isLiteral, fun _ => rfl⟩, ⟨nofun, (absurd · isLiteral)⟩⟩

/-- Two names survive though each of them reads as a literal; either of them alone does not. -/
theorem namespace_list_survives_iff_true_and_1e5 :
    loadWith (fun _ => none) none [("HOME", "/"), ("RIGHTSIZER_NAMESPACES__INCLUDE", "true,1e5")]
        variablePrefix = .ok { OperatorSettings.default with
          namespaces := ⟨["true", "1e5"], [], ["kube-system", "kube-public", "kube-node-lease"]⟩ } ∧
    loadWith (fun _ => none) none [("RIGHTSIZER_NAMESPACES__EXCLUDE", "1e5")] variablePrefix =
        .error .unusable := by
  have isName : ∀ name ∈ ["true", "1e5"], IsNamespaceName name := by decide +kernel
  constructor
  · obtain ⟨loaded, -⟩ := namespace_list_survives_iff (fun _ => none) .included [("HOME", "/")] []
      (by decide +kernel) (by simp) isName
    exact loaded.mpr (by rintro ⟨name, same, -⟩; simp at same)
  · have isDigits {digit : Char} (isDigit : digit.isDigit = true) : Numeral.IsDigits [digit] :=
      ⟨List.cons_ne_nil digit [], List.forall_mem_singleton.mpr isDigit⟩
    have isExponent : Numeral.IsExponent ['e', '5'] 5 := .unsigned (.inl rfl) (isDigits (by decide))
    obtain ⟨-, refused⟩ := namespace_list_survives_iff (fun _ => none) .excluded [] []
      (by decide +kernel) (List.cons_ne_nil "1e5" []) fun name mem =>
        isName name (List.mem_cons_of_mem _ mem)
    exact refused.mpr ⟨"1e5", rfl, .numeral (isDigits (by decide)) isExponent rfl⟩

/-- A namespace can have the name `true`, but no environment includes it alone. -/
theorem list_of_true_lost :
    IsNamespaceName "true" ∧
      loadWith (fun _ => none) none
          [("RIGHTSIZER_NAMESPACES__INCLUDE", ",".intercalate ["true"])] variablePrefix =
        .error .unusable := by
  have isLiteral : IsLiteral (",".intercalate ["true"]).toList := .flag (.inl (by decide +kernel))
  have refused : loadWith (fun _ => none) none
      ([] ++ (NamespaceList.included.holder, ",".intercalate ["true"]) :: []) variablePrefix =
        .error .unusable :=
    loadWith_list_of_isLiteral (by decide +kernel) isLiteral
  exact ⟨by decide +kernel, refused⟩

end PodSizing.Configuration
