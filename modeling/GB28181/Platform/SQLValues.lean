import GB28181.Platform.SQLTokens

/-!
# Values in SQL texts

The text values of a call of a statement maker against the literals of its text.

* `Statement.values` — the text values that are handed in; `Statement.Complete` — each of them is
  put between quotes, as it is, once;
* `complete_iff_perm` — so says the condition on the call;
* `Statement.blank` — the call without text values, whose text has the same tokens but for the
  literals;
* `unchanged_iff` — the values are the literals of one statement whose other tokens do not depend
  on them **exactly when** the call is complete and no value has a quote or a NUL.
-/

set_option autoImplicit false

namespace GB28181.Platform.SQLTextMaker

open GB28181.Base
open GB28181.Base.Sql

/-! ## The text values of a call -/

/-- The text value of a field, if it is a text. -/
def FieldInfoT.text? : FieldInfoT → Option CStr
  | ofText cstring_value _ => some cstring_value
  | _ => none

/-- The text value of a condition, if it is a text. -/
def FieldCondT.text? : FieldCondT → Option CStr
  | ofText _ _ fieldValue _ => some fieldValue
  | _ => none

def fieldTexts (fields : FieldInfoList) : List CStr := fields.filterMap fun item => item.2.text?

def conditionTexts (conds : ConditionList) : List CStr := conds.filterMap FieldCondT.text?

/-- **The text values of a call.** -/
def Statement.values : Statement → List CStr
  | insert _ fields => fieldTexts fields
  | select _ fields _ _ => fieldTexts fields
  | update _ fields conds => fieldTexts fields ++ conditionTexts (conds.getD [])
  | delete _ fields conds => fieldTexts fields ++ conditionTexts (conds.getD [])

/-- A column that a `select` looks through for its value. -/
def isLike (item : CStr × FieldInfoT) : Bool :=
  item.2.text?.isSome && findLower item.1 (str "name")

/-- Every text value is put between quotes as it is, once, and nothing else is.  A `select` puts
`%` around the values of its `like`s, a `delete` leaves its conditions out; an `update` puts the
value of the last key into its where clause if there are no conditions, else no key. -/
def Statement.Complete : Statement → Prop
  | insert _ _ => True
  | select _ fields _ _ => ∀ item ∈ fields, isLike item = false
  | update _ fields none => validFields fields ≠ [] →
    fieldTexts (fields.filter isKey) = [(primirykey (validFields fields) ([], [])).2]
  | update _ fields (some conds) =>
    if validFields fields = [] then conditionTexts conds = []
    else fieldTexts (fields.filter isKey) = []
  | delete _ _ conds => conditionTexts (conds.getD []) = []

/-! ### Against what is put between quotes -/

theorem fieldQuoted_eq {field : FieldInfoT} (h : field.IsValid = true) :
    fieldQuoted field = field.text?.toList := by
  cases field with
  | ofType t => cases h
  | _ => rfl

theorem conditonQuoted_eq (item : FieldCondT) : conditonQuoted item = item.text?.toList := by
  cases item <;> rfl

theorem flatMap_toList {α : Type} (f : α → Option CStr) (l : List α) :
    (l.flatMap fun a => (f a).toList) = l.filterMap f := by
  induction l with
  | nil => rfl
  | cons a l ih =>
    rw [List.flatMap_cons, ih]
    cases h : f a with
    | none => rw [List.filterMap_cons_none h]; rfl
    | some v => rw [List.filterMap_cons_some h]; rfl

theorem fieldTexts_cons (item : CStr × FieldInfoT) (rest : FieldInfoList) :
    fieldTexts (item :: rest) = item.2.text?.toList ++ fieldTexts rest := by
  unfold fieldTexts
  rw [← flatMap_toList, ← flatMap_toList, List.flatMap_cons]

theorem text?_of_not_isValid {field : FieldInfoT} (h : ¬ field.IsValid = true) :
    field.text? = none := by
  cases field with
  | ofType t => rfl
  | _ => exact absurd rfl h

theorem fieldTexts_validFields (fields : FieldInfoList) :
    fieldTexts (validFields fields) = fieldTexts fields := by
  unfold fieldTexts validFields
  rw [List.filterMap_filter]
  refine List.filterMap_congr fun item _ => ?_
  split
  · rfl
  · rename_i h
    exact (text?_of_not_isValid h).symm

theorem flatMap_fieldQuoted (fields : FieldInfoList) :
    ((validFields fields).flatMap fun item => fieldQuoted item.2) = fieldTexts fields := by
  rw [← fieldTexts_validFields, fieldTexts, ← flatMap_toList]
  exact List.flatMap_congr fun item hitem => fieldQuoted_eq (validFields_valid fields item hitem)

theorem flatMap_conditonQuoted (conds : ConditionList) :
    conds.flatMap conditonQuoted = conditionTexts conds := by
  rw [conditionTexts, ← flatMap_toList]
  exact List.flatMap_congr fun item _ => conditonQuoted_eq item

theorem fieldTexts_perm (fields : FieldInfoList) :
    (fieldTexts fields).Perm
      (fieldTexts (fields.filter isKey) ++ fieldTexts (fields.filter fun item => !isKey item)) := by
  unfold fieldTexts
  rw [← List.filterMap_append]
  exact (List.filter_append_perm isKey fields).symm.filterMap _

theorem flatMap_updateQuoted (fields : FieldInfoList) :
    (validFields fields).flatMap updateQuoted = fieldTexts (fields.filter fun item => !isKey item) := by
  have hfilter : (validFields fields).flatMap updateQuoted =
      ((validFields fields).filter fun item => !isKey item).flatMap
        fun item => fieldQuoted item.2 := by
    induction validFields fields with
    | nil => rfl
    | cons item rest ih =>
      rw [List.flatMap_cons, ih]
      unfold updateQuoted
      by_cases hkey : isKey item = true
      · simp [hkey]
      · simp [hkey]
  have hvalid : (validFields fields).filter (fun item => !isKey item) =
      validFields (fields.filter fun item => !isKey item) := by
    unfold validFields
    exact List.filter_comm _ _ fields
  rw [hfilter, hvalid, flatMap_fieldQuoted]

/-- A `select` puts the values as they are, but for those it looks for in a name. -/
theorem selectQuoted_eq {item : CStr × FieldInfoT} (h : item.2.IsValid = true) :
    selectQuoted item =
      if isLike item then
        item.2.text?.toList.map fun v => cstring_percent ++ v ++ cstring_percent
      else item.2.text?.toList := by
  obtain ⟨name, field⟩ := item
  cases field with
  | ofType t => cases h
  | ofText v c =>
    show (if findLower name (str "name") then _ else _) =
      if (true && findLower name (str "name")) then _ else _
    rw [Bool.true_and]
    rfl
  | _ => rfl

section measures

variable (fields : FieldInfoList)

theorem flatMap_selectQuoted (h : ∀ item ∈ fields, isLike item = false) :
    (validFields fields).flatMap selectQuoted = fieldTexts fields := by
  rw [← flatMap_fieldQuoted]
  refine List.flatMap_congr fun item hitem => ?_
  rw [selectQuoted_eq (validFields_valid fields item hitem),
    fieldQuoted_eq (validFields_valid fields item hitem), h item (List.mem_of_mem_filter hitem),
    if_neg Bool.false_ne_true]

def allBytes (vs : List CStr) : Nat := (vs.map List.length).sum

theorem allBytes_select :
    allBytes ((validFields fields).flatMap selectQuoted) =
      allBytes (fieldTexts fields) + 2 * fields.countP isLike := by
  induction fields with
  | nil => rfl
  | cons item rest ih =>
    obtain ⟨name, field⟩ := item
    unfold allBytes fieldTexts validFields at ih ⊢
    cases field with
    | ofText v c =>
      have hlen : (cstring_percent ++ v ++ cstring_percent).length = v.length + 2 := by
        simp only [List.length_append]
        show 1 + v.length + 1 = _
        omega
      rw [List.filter_cons_of_pos rfl, List.flatMap_cons, selectQuoted_eq rfl, List.countP_cons]
      by_cases hlike : isLike (name, .ofText v c) = true
      · simp only [hlike, if_true]
        simp only [FieldInfoT.text?, Option.toList, List.map_append, List.sum_append, List.map_cons,
          List.map_nil, List.sum_cons, List.sum_nil, List.filterMap_cons, ih, hlen]
        omega
      · simp only [hlike, Bool.false_eq_true, if_false]
        simp only [FieldInfoT.text?, Option.toList, List.map_append, List.sum_append, List.map_cons,
          List.map_nil, List.sum_cons, List.sum_nil, List.filterMap_cons, ih]
        omega
    | _ =>
      simp only [List.filter_cons, FieldInfoT.IsValid, Bool.false_eq_true, if_true, if_false,
        List.flatMap_cons, List.countP_cons, List.filterMap_cons, FieldInfoT.text?, isLike,
        Option.isSome_none, Bool.false_and, Nat.add_zero]
      exact ih

theorem allQuotes_select :
    allQuotes ((validFields fields).flatMap selectQuoted) = allQuotes (fieldTexts fields) := by
  rw [← fieldTexts_validFields]
  have hloop (l : FieldInfoList) (hvalid : ∀ item ∈ l, item.2.IsValid = true) :
      allQuotes (l.flatMap selectQuoted) = allQuotes (fieldTexts l) := by
    induction l with
    | nil => rfl
    | cons item rest ih =>
      obtain ⟨hitem, hrest⟩ := List.forall_mem_cons.mp hvalid
      rw [List.flatMap_cons, fieldTexts_cons, allQuotes_append, allQuotes_append, ih hrest,
        selectQuoted_eq hitem]
      congr 1
      split
      · cases item.2.text? with
        | none => rfl
        | some v =>
          show quotes (cstring_percent ++ v ++ cstring_percent) + 0 = quotes v + 0
          rw [quotes_append, quotes_append]
          show 0 + quotes v + 0 + 0 = _
          omega
      · rfl
  exact hloop _ (validFields_valid fields)

/-- The value of the last key has the quotes of one of the keys' texts, if any. -/
theorem quotes_primirykey (key : CStr × CStr) :
    quotes (primirykey fields key).2 ≤
      quotes key.2 + allQuotes (fieldTexts (fields.filter isKey)) := by
  induction fields generalizing key with
  | nil => exact Nat.le_refl _
  | cons item rest ih =>
    unfold primirykey
    by_cases hkey : isKey item = true
    · rw [if_pos hkey, List.filter_cons_of_pos hkey]
      have hrest := ih (item.1, item.2.GetValue)
      have hvalue : quotes item.2.GetValue ≤ allQuotes item.2.text?.toList := by
        cases item.2 with
        | ofText v c => exact Nat.le_add_right _ _
        | ofInt n c => exact Nat.le_of_eq (List.count_eq_zero.mpr (isRaw_number n).no_quote)
        | _ => exact Nat.le_refl 0
      rw [fieldTexts_cons, allQuotes_append]
      dsimp only at hrest
      omega
    · rw [if_neg hkey, List.filter_cons_of_neg hkey]
      exact ih key

theorem filter_isKey_validFields : (validFields fields).filter isKey = fields.filter isKey := by
  unfold validFields
  rw [List.filter_filter]
  refine List.filter_congr fun item _ => ?_
  obtain ⟨name, field⟩ := item
  cases field with
  | ofType t => rfl
  | _ => exact Bool.and_true _

end measures

theorem perm_append_self_iff {l more : List CStr} : l.Perm (l ++ more) ↔ more = [] := by
  have h := @List.perm_append_left_iff _ [] more l
  rwa [List.append_nil, List.nil_perm] at h

section complete

variable (t : CStr) (fields : FieldInfoList)

theorem complete_select_iff_perm (limit sort : CStr) :
    (Statement.select t fields limit sort).Complete ↔
      (Statement.select t fields limit sort).quoted.Perm
        (Statement.select t fields limit sort).values := by
  constructor
  · intro h
    show List.Perm (List.flatMap _ _) (fieldTexts fields)
    rw [flatMap_selectQuoted fields h]
  · intro h item hitem
    have hbytes : allBytes ((validFields fields).flatMap selectQuoted) =
        allBytes (fieldTexts fields) := (h.map List.length).sum_eq
    rw [allBytes_select] at hbytes
    exact Bool.eq_false_iff.mpr (List.countP_eq_zero.mp (by omega) item hitem)

theorem complete_update_iff_perm (conds : Option ConditionList) :
    (Statement.update t fields conds).Complete ↔
      (Statement.update t fields conds).quoted.Perm (Statement.update t fields conds).values := by
  by_cases hnil : validFields fields = []
  · have hquoted : (Statement.update t fields conds).quoted = [] := by
      show (if (validFields fields).isEmpty then _ else _) = _
      rw [hnil]
      rfl
    have hvalues : (Statement.update t fields conds).values = conditionTexts (conds.getD []) := by
      show fieldTexts fields ++ _ = _
      rw [← fieldTexts_validFields, hnil]
      rfl
    rw [hquoted, hvalues, List.nil_perm]
    cases conds with
    | none => exact iff_of_true (fun h => absurd hnil h) rfl
    | some conds => exact iff_of_eq (if_pos hnil)
  · have hquoted : (Statement.update t fields conds).quoted =
        (validFields fields).flatMap updateQuoted ++ whereQuoted (validFields fields) conds :=
      if_neg fun h => hnil (List.isEmpty_iff.mp h)
    have hvalues : (Statement.update t fields conds).values.Perm
        (fieldTexts (fields.filter fun item => !isKey item) ++
          (fieldTexts (fields.filter isKey) ++ conditionTexts (conds.getD []))) := by
      rw [← List.append_assoc]
      exact ((fieldTexts_perm fields).trans List.perm_append_comm).append_right _
    -- the fields that are no keys are in both, so what remains are the keys and the conditions
    rw [hquoted, flatMap_updateQuoted, hvalues.congr_right, List.perm_append_left_iff]
    cases conds with
    | none =>
      show (validFields fields ≠ [] → _) ↔ List.Perm [_] (fieldTexts _ ++ [])
      rw [List.append_nil, List.perm_comm, List.perm_singleton, forall_prop_of_true hnil]
    | some conds =>
      show (if validFields fields = [] then _ else _) ↔
        List.Perm (conds.flatMap conditonQuoted) (fieldTexts _ ++ conditionTexts conds)
      rw [if_neg hnil, flatMap_conditonQuoted, List.perm_append_comm.congr_right,
        perm_append_self_iff]

end complete

/-- **The condition says** that what is put between quotes are the values. -/
theorem complete_iff_perm (s : Statement) : s.Complete ↔ s.quoted.Perm s.values := by
  cases s with
  | insert t fields =>
    refine iff_of_true trivial ?_
    show List.Perm (List.flatMap _ _) (fieldTexts fields)
    rw [flatMap_fieldQuoted]
  | select t fields limit sort => exact complete_select_iff_perm t fields limit sort
  | update t fields conds => exact complete_update_iff_perm t fields conds
  | delete t fields conds =>
    show conditionTexts _ = [] ↔ List.Perm (List.flatMap _ _) (fieldTexts fields ++ _)
    rw [flatMap_fieldQuoted, perm_append_self_iff]

theorem allQuotes_quoted_le (s : Statement) : allQuotes s.quoted ≤ allQuotes s.values := by
  cases s with
  | insert t fields =>
    show allQuotes (List.flatMap _ _) ≤ allQuotes (fieldTexts fields)
    rw [flatMap_fieldQuoted]
  | select t fields limit sort => exact Nat.le_of_eq (allQuotes_select fields)
  | update t fields conds =>
    show allQuotes (if (validFields fields).isEmpty then [] else
      (validFields fields).flatMap updateQuoted ++ whereQuoted (validFields fields) conds) ≤
        allQuotes (fieldTexts fields ++ conditionTexts (conds.getD []))
    split
    · exact Nat.zero_le _
    · rw [flatMap_updateQuoted, allQuotes_append, allQuotes_append,
        allQuotes_perm (fieldTexts_perm fields), allQuotes_append]
      cases conds with
      | none =>
        have hkey := quotes_primirykey (validFields fields) ([], [])
        rw [filter_isKey_validFields] at hkey
        show _ + (quotes _ + 0) ≤ _
        simp only [quotes, List.count_nil, Nat.zero_add] at hkey ⊢
        omega
      | some conds =>
        show _ + allQuotes (conds.flatMap conditonQuoted) ≤ _ + allQuotes (conditionTexts conds)
        rw [flatMap_conditonQuoted]
        omega
  | delete t fields conds =>
    show allQuotes (List.flatMap _ _) ≤ allQuotes (fieldTexts fields ++ _)
    rw [flatMap_fieldQuoted, allQuotes_append]
    exact Nat.le_add_right _ _

/-! ## The same call without text values -/

def FieldInfoT.blank : FieldInfoT → FieldInfoT
  | ofText _ constraint => ofText [] constraint
  | field => field

def FieldCondT.blank : FieldCondT → FieldCondT
  | ofText columName conditon _ and_next => ofText columName conditon [] and_next
  | item => item

def blankFields (fields : FieldInfoList) : FieldInfoList :=
  fields.map fun item => (item.1, item.2.blank)

/-- The call with all text values empty. -/
def Statement.blank : Statement → Statement
  | insert t fields => insert t (blankFields fields)
  | select t fields limit sort => select t (blankFields fields) limit sort
  | update t fields conds => update t (blankFields fields) (conds.map (·.map (·.blank)))
  | delete t fields conds => delete t (blankFields fields) (conds.map (·.map (·.blank)))

theorem isValid_blank (field : FieldInfoT) : field.blank.IsValid = field.IsValid := by
  cases field <;> rfl

theorem isKey_blank (item : CStr × FieldInfoT) : isKey (item.1, item.2.blank) = isKey item := by
  obtain ⟨name, field⟩ := item
  cases field <;> rfl

theorem plain_of_isRaw {v : CStr} (h : IsRaw v) : Plain v := ⟨h.no_quote, h.no_nul⟩

theorem plain_getValue_blank (field : FieldInfoT) : Plain field.blank.GetValue := by
  cases field with
  | ofType t => exact plain_of_isRaw isRaw_nil
  | ofInt n c => exact plain_of_isRaw (isRaw_number n)
  | ofBool b c => exact plain_of_isRaw (isRaw_word (List.all_eq_true.mp rfl))
  | ofText v c => exact plain_of_isRaw isRaw_nil

theorem validFields_blank (fields : FieldInfoList) :
    validFields (blankFields fields) = blankFields (validFields fields) := by
  unfold validFields blankFields
  rw [List.filter_map]
  congr 1
  refine List.filter_congr fun item _ => ?_
  exact isValid_blank item.2

theorem isEmpty_blank (fields : FieldInfoList) :
    (blankFields fields).isEmpty = fields.isEmpty := List.isEmpty_map

/-! The tokens but for the literals are the same. -/

theorem skeleton_cons {ts us : List Token} (t : Token) (h : skeleton ts = skeleton us) :
    skeleton (t :: ts) = skeleton (t :: us) := by
  show skeleton ([t] ++ ts) = skeleton ([t] ++ us)
  rw [skeleton_append, skeleton_append, h]

theorem skeleton_value (field : FieldInfoT) :
    skeleton (valueTokens field.blank) = skeleton (valueTokens field) := by
  cases field <;> rfl

theorem skeleton_equal (item : CStr × FieldInfoT) :
    skeleton (equalTokens (item.1, item.2.blank)) = skeleton (equalTokens item) :=
  skeleton_cons _ (skeleton_cons _ (skeleton_value item.2))

theorem skeleton_selectField (item : CStr × FieldInfoT) :
    skeleton (selectFieldTokens (item.1, item.2.blank)) = skeleton (selectFieldTokens item) := by
  obtain ⟨name, field⟩ := item
  cases field with
  | ofText v c =>
    show skeleton (if findLower name (str "name") then _ else _) =
      skeleton (if findLower name (str "name") then _ else _)
    by_cases hfind : findLower name (str "name") = true
    · simp only [hfind, if_true]
      rfl
    · simp only [hfind, Bool.false_eq_true, if_false]
      rfl
  | _ => rfl

theorem skeleton_conditon (item : FieldCondT) :
    skeleton (conditonTokens item.blank) = skeleton (conditonTokens item) := by
  cases item with
  | ofText name op v next =>
    show skeleton (_ ++ _) = skeleton (_ ++ _)
    rw [skeleton_append, skeleton_append]
    rfl
  | _ => rfl

/-- A loop over other entries, with the same tokens but for the literals. -/
theorem skeleton_turns_map {α : Type} {body next last : α → List Token} {f : α → α} (l : List α)
    (hbody : ∀ a, skeleton (body (f a)) = skeleton (body a)) (hnext : ∀ a, next (f a) = next a)
    (hlast : ∀ a, last (f a) = last a) :
    skeleton (turns body next last (l.map f)) = skeleton (turns body next last l) := by
  rw [turns_map, skeleton_turns, skeleton_turns]
  simp only [Function.comp_apply, hbody, hnext, hlast]

theorem primirykey_blank (fields : FieldInfoList) {key key' : CStr × CStr} (h : key.1 = key'.1) :
    (primirykey (blankFields fields) key).1 = (primirykey fields key').1 := by
  induction fields generalizing key key' with
  | nil => exact h
  | cons item rest ih =>
    show (if isKey (item.1, item.2.blank) then _ else _ : CStr × CStr).1 =
      (if isKey item then _ else _ : CStr × CStr).1
    rw [isKey_blank]
    split_ifs
    · exact ih rfl
    · exact ih h

theorem skeleton_body {fields : FieldInfoList} {body body' : FieldInfoList → List Token}
    (h : skeleton (body' (blankFields (validFields fields))) =
      skeleton (body (validFields fields))) :
    skeleton (bodyTokens (blankFields fields) body') = skeleton (bodyTokens fields body) := by
  unfold bodyTokens
  rw [validFields_blank, isEmpty_blank]
  split_ifs
  · rfl
  · exact h

theorem skeleton_set (fields : FieldInfoList) :
    skeleton (setTokens (blankFields fields)) = skeleton (setTokens fields) := by
  refine skeleton_turns_map fields (fun item => ?_) (fun item => ?_) (fun _ => rfl)
  · rw [isKey_blank]
    split_ifs
    · rfl
    · exact skeleton_equal item
  · rw [isKey_blank]

theorem skeleton_conditions (l : ConditionList) :
    skeleton (conditionTokens (l.map (·.blank))) = skeleton (conditionTokens l) := by
  refine skeleton_turns_map l skeleton_conditon (fun item => ?_) (fun _ => rfl)
  cases item <;> rfl

theorem skeleton_update (fields : FieldInfoList) (conds : Option ConditionList) :
    skeleton (updateTokens (blankFields fields) (conds.map (·.map (·.blank)))) =
      skeleton (updateTokens fields conds) := by
  show skeleton ((keyword "set" :: setTokens (blankFields fields)) ++ keyword "where" :: _) =
    skeleton ((keyword "set" :: setTokens fields) ++ keyword "where" :: _)
  rw [skeleton_append, skeleton_append, skeleton_cons _ (skeleton_set fields)]
  congr 1
  refine skeleton_cons _ ?_
  cases conds with
  | none =>
    show skeleton (flush _ ++ _) = skeleton (flush _ ++ _)
    rw [skeleton_append, skeleton_append, primirykey_blank fields rfl]
    rfl
  | some l => exact skeleton_conditions l

/-- **The tokens but for the literals** do not depend on the text values. -/
theorem Statement.skeleton_blank (s : Statement) :
    skeleton s.blank.tokens = skeleton s.tokens := by
  cases s with
  | insert t fields =>
    refine skeleton_cons _ (skeleton_cons _ (skeleton_cons _ (skeleton_body ?_)))
    show skeleton ((.op 0x28 :: turns _ _ _ (blankFields _)) ++ keyword "values" :: .op 0x28 :: _) =
      skeleton ((.op 0x28 :: turns _ _ _ _) ++ keyword "values" :: .op 0x28 :: _)
    rw [skeleton_append, skeleton_append]
    congr 1
    · exact skeleton_cons _ (skeleton_turns_map _ (fun _ => rfl) (fun _ => rfl) fun _ => rfl)
    · exact skeleton_cons _ (skeleton_cons _ (skeleton_turns_map _
        (fun item => skeleton_value item.2) (fun _ => rfl) fun _ => rfl))
  | select t fields limit sort =>
    have hbody : skeleton (bodyTokens (blankFields fields) selectTokens) =
        skeleton (bodyTokens fields selectTokens) :=
      skeleton_body (skeleton_cons _ (skeleton_turns_map _ skeleton_selectField (fun _ => rfl)
        fun _ => rfl))
    unfold Statement.blank Statement.tokens
    simp only [List.append_assoc, List.cons_append]
    refine skeleton_cons _ (skeleton_cons _ (skeleton_cons _ (skeleton_cons _ ?_)))
    rw [skeleton_append, hbody, ← skeleton_append]
  | update t fields conds =>
    exact skeleton_cons _ (skeleton_cons _ (skeleton_body (skeleton_update _ conds)))
  | delete t fields conds =>
    exact skeleton_cons _ (skeleton_cons _ (skeleton_cons _ (skeleton_body (skeleton_cons _
      (skeleton_turns_map _ skeleton_equal (fun _ => rfl) fun _ => rfl)))))

/-! The blank call has plain values. -/

theorem plain_fieldQuoted_blank (field : FieldInfoT) : ∀ v ∈ fieldQuoted field.blank, Plain v := by
  intro v hv
  unfold fieldQuoted at hv
  split at hv
  · rw [List.mem_singleton.mp hv]
    exact plain_getValue_blank field
  · cases hv

theorem plain_selectQuoted_blank (item : CStr × FieldInfoT) :
    ∀ v ∈ selectQuoted (item.1, item.2.blank), Plain v := by
  intro v hv
  have hvalue := plain_getValue_blank item.2
  unfold selectQuoted at hv
  split at hv
  · split_ifs at hv
    · rw [List.mem_singleton.mp hv]
      exact ⟨List.not_mem_append (List.not_mem_append (by decide) hvalue.1) (by decide),
        List.not_mem_append (List.not_mem_append (by decide) hvalue.2) (by decide)⟩
    · rw [List.mem_singleton.mp hv]
      exact hvalue
  · cases hv

theorem plain_conditonQuoted_blank (item : FieldCondT) :
    ∀ v ∈ conditonQuoted item.blank, Plain v := by
  cases item with
  | ofText name op v next =>
    intro w hw
    rw [List.mem_singleton.mp hw]
    exact plain_of_isRaw isRaw_nil
  | _ => exact fun w hw => by cases hw

theorem plain_primirykey_blank (fields : FieldInfoList) {key : CStr × CStr} (h : Plain key.2) :
    Plain (primirykey (blankFields fields) key).2 := by
  induction fields generalizing key with
  | nil => exact h
  | cons item rest ih =>
    show Plain (if isKey (item.1, item.2.blank) then _ else _ : CStr × CStr).2
    split_ifs
    · exact ih (plain_getValue_blank item.2)
    · exact ih h

/-- What every entry has holds of what the blank entries have between quotes. -/
theorem forall_quoted_blank {fields : FieldInfoList} {quoted : CStr × FieldInfoT → List CStr}
    (h : ∀ item : CStr × FieldInfoT, ∀ v ∈ quoted (item.1, item.2.blank), Plain v) :
    ∀ v ∈ (validFields (blankFields fields)).flatMap quoted, Plain v := by
  rw [validFields_blank, List.forall_mem_flatMap]
  intro item hitem
  obtain ⟨item', -, rfl⟩ := List.mem_map.mp hitem
  exact h item'

theorem plain_blank (s : Statement) : ∀ v ∈ s.blank.quoted, Plain v := by
  cases s with
  | insert t fields => exact forall_quoted_blank fun item => plain_fieldQuoted_blank item.2
  | select t fields limit sort => exact forall_quoted_blank plain_selectQuoted_blank
  | update t fields conds =>
    intro v hv
    have hv' : v ∈ if (validFields (blankFields fields)).isEmpty then ([] : List CStr) else
        (validFields (blankFields fields)).flatMap updateQuoted ++
          whereQuoted (validFields (blankFields fields)) (conds.map (·.map (·.blank))) := hv
    split_ifs at hv' with hempty
    · cases hv'
    · rcases List.mem_append.mp hv' with hmem | hmem
      · refine forall_quoted_blank (fun item w hw => ?_) v hmem
        unfold updateQuoted at hw
        split_ifs at hw
        · cases hw
        · exact plain_fieldQuoted_blank item.2 w hw
      · cases conds with
        | none =>
          rw [List.mem_singleton.mp hmem, validFields_blank]
          exact plain_primirykey_blank _ (plain_of_isRaw isRaw_nil)
        | some l =>
          obtain ⟨item, hitem, hw⟩ := List.mem_flatMap.mp hmem
          obtain ⟨item', -, rfl⟩ := List.mem_map.mp hitem
          exact plain_conditonQuoted_blank item' v hw
  | delete t fields conds => exact forall_quoted_blank fun item => plain_fieldQuoted_blank item.2

theorem named_blankFields {fields : FieldInfoList} (h : FieldsNamed fields) :
    FieldsNamed (blankFields fields) := by
  intro item hitem
  obtain ⟨item', hmem, rfl⟩ := List.mem_map.mp hitem
  exact h item' hmem

theorem named_blankConditions {conds : Option ConditionList}
    (h : ∀ l ∈ conds, ConditionsNamed l) :
    ∀ l ∈ conds.map (·.map (·.blank)), ConditionsNamed l := by
  intro l hl item hitem
  obtain ⟨l', hl', rfl⟩ := Option.mem_map.mp hl
  obtain ⟨item', hmem, rfl⟩ := List.mem_map.mp hitem
  have hnamed := h l' hl' item' hmem
  cases item' <;> exact hnamed

theorem named_blank {s : Statement} (h : s.Named) : s.blank.Named := by
  cases s with
  | insert t fields => exact ⟨h.1, named_blankFields h.2⟩
  | select t fields limit sort => exact ⟨h.1, named_blankFields h.2.1, h.2.2⟩
  | update t fields conds => exact ⟨h.1, named_blankFields h.2.1, named_blankConditions h.2.2⟩
  | delete t fields conds => exact ⟨h.1, named_blankFields h.2.1, named_blankConditions h.2.2⟩

theorem blank_text {s : Statement} {sql : CStr} (hnamed : s.Named) (h : s.text = .ok sql) :
    ∃ sql', s.blank.text = .ok sql' := by
  cases s with
  | insert t fields =>
    by_cases hempty : (validFields fields).isEmpty = true
    · have hnone : FormatSQL fields ._INSERT none = [] := FormatSQL_of_isEmpty hempty ._INSERT
      have herror : MakeInserSql t fields =
          .error (str "insert abort , for no field info to insert into: " ++ t) := by
        unfold MakeInserSql
        rw [hnone]
        rfl
      rw [Statement.text, herror] at h
      cases h
    · have hblank : ¬ (validFields (blankFields fields)).isEmpty = true := by
        rwa [validFields_blank, isEmpty_blank]
      refine ⟨cstring_insert ++ cstring_into ++ t ++ cstring_space ++
        MakeInsertTextBody (validFields (blankFields fields)) none, ?_⟩
      show MakeInserSql t (blankFields fields) = _
      unfold MakeInserSql
      rw [format_insert hblank]
      rfl
  | select t fields limit sort => exact ⟨_, select_text hnamed.1⟩
  | update t fields conds => exact ⟨_, update_text hnamed.1⟩
  | delete t fields conds => exact ⟨_, delete_text hnamed.1⟩

/-! ## Values change nothing -/

/-- The text is one statement, its literals are the values, and its other tokens are those of the
call without text values. -/
structure Unchanged (s : Statement) (sql : CStr) : Prop where
  literals_perm : (literals (tokens sql)).Perm s.values
  skeleton_eq : ∀ sql', s.blank.text = .ok sql' → skeleton (tokens sql) = skeleton (tokens sql')
  single : semicolon ∉ (tokens sql).dropLast

theorem Unchanged.length_values {s : Statement} (hnamed : s.Named) {sql : CStr}
    (h : s.text = .ok sql) (hunchanged : Unchanged s sql) : s.values.length = s.quoted.length := by
  obtain ⟨sql', h'⟩ := blank_text hnamed h
  have hblank := (Statement.reads_text (named_blank hnamed) (plain_blank s) h').tokens_eq
  have hskeleton := hunchanged.skeleton_eq sql' h'
  rw [hblank, Statement.skeleton_blank] at hskeleton
  rw [← hunchanged.literals_perm.length_eq, length_literals_of_skeleton hskeleton,
    (Statement.ends_tokens hnamed).literals_eq]

/-- **Values of a statement.**  They are its literals, and nothing else depends on them, exactly
when the call is complete and no value has a quote or a NUL. -/
theorem unchanged_iff {s : Statement} (hnamed : s.Named) {sql : CStr} (h : s.text = .ok sql) :
    Unchanged s sql ↔ s.Complete ∧ ∀ v ∈ s.values, quote ∉ v ∧ (0 : UInt8) ∉ v := by
  have hends := Statement.ends_tokens hnamed
  constructor
  · intro hunchanged
    have hplain : ∀ v ∈ s.quoted, Plain v :=
      (Statement.quoting_text hnamed h).plain_of_literals hunchanged.literals_perm
        (hunchanged.length_values hnamed h) (allQuotes_quoted_le s)
    -- so the tokens are those of the call, and the literals are what it puts between quotes
    have hperm := hunchanged.literals_perm
    rw [(Statement.reads_text hnamed hplain h).tokens_eq, hends.literals_eq] at hperm
    exact ⟨(complete_iff_perm s).mpr hperm, fun v hv => hplain v (hperm.mem_iff.mpr hv)⟩
  · rintro ⟨hcomplete, hvalues⟩
    have hperm := (complete_iff_perm s).mp hcomplete
    have hplain : ∀ v ∈ s.quoted, Plain v := fun v hv => hvalues v (hperm.mem_iff.mp hv)
    have htokens := (Statement.reads_text hnamed hplain h).tokens_eq
    refine ⟨by rwa [htokens, hends.literals_eq], fun sql' h' => ?_, ?_⟩
    · have hblank := (Statement.reads_text (named_blank hnamed) (plain_blank s) h').tokens_eq
      rw [htokens, hblank, Statement.skeleton_blank]
    · rw [htokens]
      exact hends.single

def deleteDevice (id : CStr) : Statement :=
  .delete (str "device") [(str "DeviceID", .ofText id .c_PrimaryKey)] none

theorem named_deleteDevice (id : CStr) : (deleteDevice id).Named := by
  refine ⟨isName_str (by decide) rfl, fun item hitem => ?_, fun l hl => by cases hl⟩
  rw [List.mem_singleton.mp hitem]
  exact isName_str (by decide) rfl

/-- An ID without quotes. -/
theorem unchanged_iff_plainId :
    Unchanged (deleteDevice (str "3402")) (str "delete from device where DeviceID='3402' ;") := by
  refine (unchanged_iff (named_deleteDevice _) rfl).mpr ⟨rfl, fun v hv => ?_⟩
  rw [List.mem_singleton.mp hv]
  exact ⟨by decide, by decide⟩

/-- One quote in a value: the rest of it is read as SQL. -/
theorem quote_becomes_sql :
    (deleteDevice (str "x' or '1'='1")).Named ∧
      (deleteDevice (str "x' or '1'='1")).text =
        .ok (str "delete from device where DeviceID='x' or '1'='1' ;") ∧
      ¬ Unchanged (deleteDevice (str "x' or '1'='1"))
        (str "delete from device where DeviceID='x' or '1'='1' ;") := by
  refine ⟨named_deleteDevice _, rfl, fun h => ?_⟩
  have hlength := h.literals_perm.length_eq
  exact absurd hlength (by decide)

end GB28181.Platform.SQLTextMaker
