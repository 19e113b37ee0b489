import AlarmMesh.Shadow.Property
import Mathlib.Data.List.Basic

/-!
# The names of what is kept for faults

The name of a fault's property is put together from the code of the fault and a word for what is
kept.  The store goes by names, so two faults stay apart only if such a name tells both, and if it
is the name of nothing else.  It is read backwards: the digits end at the first character that is
none, and what follows it is the word.

* `Text.digitsValue_paddedTwo` — a number that is written with at least two digits is read back;
* `name_ne_faultName` — no other property that is kept goes by such a name;
* `Property.ofName_faultName` — the property that such a name stands for.
-/

namespace AlarmMesh.Text

theorem toList_paddedTwo (n : Nat) :
    (paddedTwo n).toList = if n < 10 then '0' :: Nat.toDigits 10 n else Nat.toDigits 10 n := by
  unfold paddedTwo
  split <;> simp

theorem isDigit_of_mem_paddedTwo {n : Nat} {c : Char} (h : c ∈ (paddedTwo n).toList) :
    isDigit c := by
  have hdigits {c : Char} (h : c ∈ Nat.toDigits 10 n) : isDigit c := by
    simpa [isDigit, Char.isDigit, Char.le_def] using
      Nat.isDigit_of_mem_toDigits (by decide) (by decide) h
  rw [toList_paddedTwo] at h
  split at h
  · obtain rfl | h := List.mem_cons.1 h
    · rfl
    · exact hdigits h
  · exact hdigits h

theorem digitsValue_paddedTwo (n : Nat) : digitsValue (paddedTwo n).toList = n := by
  have hvalue (cs : List Char) : digitsValue cs = Nat.ofDigitChars 10 cs 0 := rfl
  rw [hvalue, toList_paddedTwo]
  -- a leading zero adds nothing
  split
  · exact Nat.ofDigitChars_toDigits (by decide) (by decide)
  · exact Nat.ofDigitChars_toDigits (by decide) (by decide)

end AlarmMesh.Text

namespace AlarmMesh.Shadow

theorem toList_faultName (code : UInt8) (suffix : String) :
    (faultName code suffix).toList =
      'f' :: 'l' :: 't' :: ((Text.paddedTwo code.toNat).toList ++ '_' :: suffix.toList) := by
  simp [faultName]

namespace Property

theorem fieldOf?_suffix (field : FaultField) : fieldOf? field.suffix.toList = some field := by
  cases field <;> decide

theorem faultOf?_of_toList {name : String} {rest : List Char}
    (h : name.toList = 'f' :: 'l' :: 't' :: rest) :
    faultOf? name =
      (fieldOf? (rest.drop ((rest.takeWhile Text.isDigit).length + 1))).map fun field =>
        fault (UInt8.ofNat (Text.digitsValue (rest.takeWhile Text.isDigit))) field := by
  unfold faultOf?
  rw [h]
  rfl

/-- The digits of a name end at the line that follows them. -/
theorem faultOf?_faultName (code : UInt8) (field : FaultField) :
    faultOf? (faultName code field.suffix) = some (.fault code field) := by
  have hcode : UInt8.ofNat (Text.digitsValue (Text.paddedTwo code.toNat).toList) = code := by
    rw [Text.digitsValue_paddedTwo, UInt8.ofNat_toNat]
  have hdigits := fun c => Text.isDigit_of_mem_paddedTwo (n := code.toNat) (c := c)
  rw [faultOf?_of_toList (toList_faultName code field.suffix)]
  generalize (Text.paddedTwo code.toNat).toList = digits at hcode hdigits
  have htaken : (digits ++ '_' :: field.suffix.toList).takeWhile Text.isDigit = digits := by
    rw [List.takeWhile_append_of_pos hdigits]
    simp [Text.isDigit]
  have hrest : (digits ++ '_' :: field.suffix.toList).drop (digits.length + 1) =
      field.suffix.toList := by simp
  rw [htaken, hrest, fieldOf?_suffix, hcode]
  rfl

/-- No fixed name begins as that of a fault and goes on after it. -/
theorem name_ne_faultName {property : Property} (h : property ∈ fixed) (code : UInt8)
    (suffix : String) : property.name ≠ faultName code suffix := by
  have hfixed : ∀ property ∈ fixed, property.name.toList.take 3 = ['f', 'l', 't'] →
      property.name.toList.length = 3 := by decide +kernel
  intro hname
  have hlist := (congrArg String.toList hname).trans (toList_faultName code suffix)
  have hlength := hfixed property h (by rw [hlist]; rfl)
  rw [hlist] at hlength
  simp at hlength

theorem ofName_faultName (code : UInt8) (field : FaultField) :
    ofName (faultName code field.suffix) = .fault code field := by
  have hfixed : (fixed.find? fun property => property.name = faultName code field.suffix) =
      none := by
    simpa using fun property hproperty => name_ne_faultName hproperty code field.suffix
  unfold ofName
  rw [hfixed, faultOf?_faultName]
  exact if_pos rfl

end Property

end AlarmMesh.Shadow
