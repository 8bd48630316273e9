import Sokar.Marketing.Register

/-!
# Forms of a phone number

A number is compared by its normal form.  Older rows hold a French number in its national form, so
that a number is looked up in both, and as it was given.
-/

namespace Sokar.Customers

open Marketing

variable (value : String)

/-- `/^\+?[0-9]+$/`. -/
def isCompactPhone : Bool :=
  let digits := if hasStart value "+" then value.toList.drop 1 else value.toList
  !digits.isEmpty && digits.all Char.isDigit

/-- `/^\+33[1-9][0-9]{8}$/`. -/
def isFrenchPhone : Bool :=
  hasStart value "+33" && value.length == 12 && (value.toList.drop 3).all Char.isDigit &&
    (value.toList.drop 3).head? != some '0'

/-- The forms under which a number may be stored. -/
def customerPhoneLookupValues : List String :=
  let values := match normalizeCustomerPhone value with
    | none => []
    | some normalized =>
      if isFrenchPhone normalized then
        [normalized, String.ofList ('0' :: normalized.toList.drop 3)]
      else [normalized]
  if trim value ∈ values then values else values ++ [trim value]

theorem isTrimmedChar_of_phone {char : Char} (isPhone : isPhoneChar char = true) :
    isTrimmedChar char = false := by
  simp only [isPhoneChar, Bool.or_eq_true, beq_iff_eq, Char.isDigit, Bool.and_eq_true,
    decide_eq_true_eq] at isPhone
  rcases isPhone with ⟨low, high⟩ | rfl
  · have low' : 48 ≤ char.toNat := low
    have high' : char.toNat ≤ 57 := high
    simp [isTrimmedChar]
    omega
  · decide

def IsDialed (text : String) : Prop :=
  ∀ char ∈ text.toList, isPhoneChar char = true

variable {text : String}

theorem trim_of_dialed (dialed : IsDialed text) : trim text = text :=
  trim_eq_self fun char isChar => isTrimmedChar_of_phone (dialed char isChar)

theorem filter_of_dialed (dialed : IsDialed text) :
    String.ofList (text.toList.filter isPhoneChar) = text := by
  rw [List.filter_eq_self.2 dialed, String.ofList_toList]

theorem dialed_of_safe (safe : SAFE_PHONE_PATTERN text = true) : IsDialed text := by
  unfold SAFE_PHONE_PATTERN at safe
  simp only [Bool.and_eq_true, decide_eq_true_eq, List.all_eq_true] at safe
  obtain ⟨⟨digits, -⟩, -⟩ := safe
  intro char isChar
  split at digits
  next plus =>
    obtain ⟨rest, isText⟩ := List.isPrefixOf_iff_prefix.1 plus
    rw [← isText] at isChar digits
    rcases List.mem_cons.1 isChar with rfl | isRest
    · rfl
    · simp [isPhoneChar, digits char (by simpa using isRest)]
  next => simp [isPhoneChar, digits char isChar]

theorem normalizePhone_of_dialed (dialed : IsDialed text) : normalizePhone text =
      if hasStart text "+" then text
      else if hasStart text "00" then String.ofList ('+' :: text.toList.drop 2)
      else if hasStart text "0" && text.length == 10 then
        String.ofList ('+' :: '3' :: '3' :: text.toList.drop 1)
      else text := by
  unfold normalizePhone
  rw [filter_of_dialed dialed]

theorem hasStart_plus (rest : List Char) : hasStart (String.ofList ('+' :: rest)) "+" = true := by
  simp [hasStart]

theorem normalizePhone_normalizePhone (text : String) (dialed : IsDialed (normalizePhone text)) :
    normalizePhone (normalizePhone text) = normalizePhone text := by
  rw [normalizePhone_of_dialed dialed]
  generalize found : normalizePhone text = normal
  unfold normalizePhone at found
  dsimp only at found
  split at found
  next plus => subst found; rw [if_pos plus]
  next noPlus =>
    split at found
    next => subst found; rw [if_pos (hasStart_plus _)]
    next noZeros =>
      split at found
      next => subst found; rw [if_pos (hasStart_plus _)]
      next national => subst found; rw [if_neg noPlus, if_neg noZeros, if_neg national]

theorem normalizeCustomerPhone_trim :
    normalizeCustomerPhone (trim value) = normalizeCustomerPhone value := by
  unfold normalizeCustomerPhone
  rw [trim_trim]

theorem isPhoneText_of_dialed (dialed : IsDialed text) : isPhoneText text = true := by
  refine List.all_eq_true.2 fun char isChar => ?_
  have isPhone := dialed char isChar
  simp only [isPhoneChar, Bool.or_eq_true, beq_iff_eq] at isPhone
  rcases isPhone with digit | rfl
  · simp [digit]
  · decide

variable {value normalized : String}

theorem safe_of_normalized (isNormal : normalizeCustomerPhone value = some normalized) :
    SAFE_PHONE_PATTERN normalized = true ∧ normalizePhone (trim value) = normalized := by
  unfold normalizeCustomerPhone at isNormal
  by_cases refused : ((trim value).isEmpty || !isPhoneText (trim value)) = true
  · rw [if_pos refused] at isNormal
    exact absurd isNormal (Option.some_ne_none _).symm
  rw [if_neg refused] at isNormal
  by_cases safe : SAFE_PHONE_PATTERN (normalizePhone (trim value)) = true
  · rw [if_pos safe] at isNormal
    have same := Option.some.inj isNormal
    exact ⟨same ▸ safe, same⟩
  · rw [if_neg safe] at isNormal
    exact absurd isNormal (Option.some_ne_none _).symm

theorem normalizeCustomerPhone_of_safe (dialed : IsDialed text)
    (safe : SAFE_PHONE_PATTERN (normalizePhone text) = true) (nonempty : text.isEmpty = false) :
    normalizeCustomerPhone text = some (normalizePhone text) := by
  unfold normalizeCustomerPhone
  dsimp only
  rw [trim_of_dialed dialed, if_pos safe, if_neg]
  simp [isPhoneText_of_dialed dialed]
  simpa using nonempty

theorem nonempty_of_safe (safe : SAFE_PHONE_PATTERN text = true) : text.isEmpty = false := by
  by_contra isEmpty
  have isText : text = "" := by simpa using isEmpty
  subst isText
  exact absurd safe (by decide)

theorem normal_of_normalized (isNormal : normalizeCustomerPhone value = some normalized) :
    normalizeCustomerPhone normalized = some normalized := by
  obtain ⟨safe, made⟩ := safe_of_normalized isNormal
  have dialed := dialed_of_safe safe
  have again : normalizePhone normalized = normalized := by
    have twice := normalizePhone_normalizePhone (trim value) (by rw [made]; exact dialed)
    rwa [made] at twice
  have kept := normalizeCustomerPhone_of_safe dialed (by rw [again]; exact safe)
    (nonempty_of_safe safe)
  rwa [again] at kept

theorem toList_of_hasStart {text start : String} (starts : hasStart text start = true) :
    ∃ rest, text = String.ofList (start.toList ++ rest) := by
  obtain ⟨rest, isText⟩ := List.isPrefixOf_iff_prefix.1 starts
  exact ⟨rest, by rw [isText, String.ofList_toList]⟩

/-- The national form of a French number has the number for its normal form. -/
theorem normalized_national {normalized : String} (french : isFrenchPhone normalized = true)
    (safe : SAFE_PHONE_PATTERN normalized = true) :
    normalizeCustomerPhone (String.ofList ('0' :: normalized.toList.drop 3)) = some normalized := by
  unfold isFrenchPhone at french
  simp only [Bool.and_eq_true, beq_iff_eq, bne_iff_ne, List.all_eq_true] at french
  obtain ⟨⟨⟨prefixed, twelve⟩, digits⟩, noZero⟩ := french
  obtain ⟨rest, rfl⟩ := toList_of_hasStart prefixed
  have three : ("+33".toList ++ rest) = '+' :: '3' :: '3' :: rest := rfl
  rw [three] at twelve digits noZero safe ⊢
  simp only [String.toList_ofList, String.length_ofList, List.length_cons, List.drop_succ_cons,
    List.drop_zero] at twelve digits noZero ⊢
  have dialed : IsDialed (String.ofList ('0' :: rest)) := by
    intro char isChar
    rw [String.toList_ofList] at isChar
    rcases List.mem_cons.1 isChar with rfl | isRest
    · rfl
    · simp [isPhoneChar, digits char isRest]
  have normal : normalizePhone (String.ofList ('0' :: rest)) =
      String.ofList ('+' :: '3' :: '3' :: rest) := by
    rw [normalizePhone_of_dialed dialed, if_neg, if_neg, if_pos]
    · simp
    · refine Bool.and_eq_true_iff.2 ⟨by simp [hasStart], beq_iff_eq.2 ?_⟩
      rw [String.length_ofList, List.length_cons]
      omega
    · cases rest with
      | nil => simp [hasStart]
      | cons first rest =>
        simp only [List.head?_cons, ne_eq, Option.some.injEq] at noZero
        simp [hasStart, Ne.symm noZero]
    · simp [hasStart]
  rw [normalizeCustomerPhone_of_safe dialed (normal ▸ safe) (by simp), normal]

theorem lookupValues_of_normal {normalized : String}
    (isNormal : normalizeCustomerPhone normalized = some normalized) :
    customerPhoneLookupValues normalized = if isFrenchPhone normalized then
        [normalized, String.ofList ('0' :: normalized.toList.drop 3)]
      else [normalized] := by
  have trimmed := trim_of_dialed (dialed_of_safe (safe_of_normalized isNormal).1)
  unfold customerPhoneLookupValues
  rw [isNormal, trimmed]
  dsimp only
  split <;> simp

/-- The forms of a number are those of its normal form, and the number itself. -/
theorem lookupValues_eq (isNormal : normalizeCustomerPhone value = some normalized) :
    customerPhoneLookupValues value =
      if trim value ∈ customerPhoneLookupValues normalized then customerPhoneLookupValues normalized
      else customerPhoneLookupValues normalized ++ [trim value] := by
  rw [lookupValues_of_normal (normal_of_normalized isNormal)]
  unfold customerPhoneLookupValues
  rw [isNormal]

theorem mem_lookupValues_of_normal {normalized : String}
    (isNormal : normalizeCustomerPhone normalized = some normalized) :
    normalized ∈ customerPhoneLookupValues normalized := by
  rw [lookupValues_of_normal isNormal]
  split <;> exact List.mem_cons_self

theorem normalized_of_mem_lookupValues {value normalized form : String}
    (isNormal : normalizeCustomerPhone value = some normalized)
    (isForm : form ∈ customerPhoneLookupValues value) :
    normalizeCustomerPhone form = some normalized := by
  have own := normal_of_normalized isNormal
  have ofNormal : form ∈ customerPhoneLookupValues normalized →
      normalizeCustomerPhone form = some normalized := by
    intro isForm
    rw [lookupValues_of_normal own] at isForm
    split at isForm
    next french =>
      rcases List.mem_pair.1 isForm with rfl | rfl
      · exact own
      · exact normalized_national french (safe_of_normalized own).1
    next =>
      rw [List.mem_singleton.1 isForm]
      exact own
  rw [lookupValues_eq isNormal] at isForm
  split at isForm
  · exact ofNormal isForm
  · rcases List.mem_append.1 isForm with isForm | isForm
    · exact ofNormal isForm
    · rw [List.mem_singleton.1 isForm, normalizeCustomerPhone_trim]
      exact isNormal

theorem isCompactPhone_of_safe (safe : SAFE_PHONE_PATTERN text = true) :
    isCompactPhone text = true := by
  unfold SAFE_PHONE_PATTERN at safe
  unfold isCompactPhone
  simp only [Bool.and_eq_true, decide_eq_true_eq] at safe ⊢
  obtain ⟨⟨digits, atLeast⟩, -⟩ := safe
  refine ⟨?_, digits⟩
  rw [Bool.not_eq_true', List.isEmpty_eq_false_iff]
  exact List.ne_nil_of_length_pos (by omega)

theorem isCompactPhone_of_normal {normalized form : String}
    (isNormal : normalizeCustomerPhone normalized = some normalized)
    (isForm : form ∈ customerPhoneLookupValues normalized) : isCompactPhone form = true := by
  have compact := isCompactPhone_of_safe (safe_of_normalized isNormal).1
  rw [lookupValues_of_normal isNormal] at isForm
  split at isForm
  next french =>
    rcases List.mem_pair.1 isForm with rfl | rfl
    · exact compact
    · unfold isFrenchPhone at french
      simp only [Bool.and_eq_true, List.all_eq_true] at french
      have digits := french.1.2
      simp [isCompactPhone, hasStart]
      simpa using digits
  next =>
    rw [List.mem_singleton.1 isForm]
    exact compact

theorem normalized_erased (text : String) : normalizeCustomerPhone ("erased:" ++ text) = none := by
  have refused : isPhoneText (trim ("erased:" ++ text)) = false := by
    have first : ("erased:" ++ text).toList = 'e' :: ("rased:".toList ++ text.toList) := by
      simp
    have kept : 'e' ∈ (trim ("erased:" ++ text)).toList := by
      unfold trim
      rw [first, List.dropWhile_cons_of_neg (by decide), String.toList_ofList, List.mem_reverse,
        List.reverse_cons]
      rw [List.dropWhile_append]
      split
      · simp [isTrimmedChar]
      · simp
    refine List.all_eq_false.2 ⟨'e', kept, ?_⟩
    decide
  unfold normalizeCustomerPhone
  dsimp only
  rw [refused, if_pos (by simp)]

end Sokar.Customers
