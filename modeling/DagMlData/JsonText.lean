import DagMlData.Fingerprint
import DagMlData.JsonEq

/-!
# JSON texts

The compact form of a value determines the value. A text is read from the left: the first
character tells the kind of the value, an escape is read back as its character, and a number ends
where no character of a number follows.

* `FloatText`: what is assumed of the text of a float.
* `compact_inj`: values with one text are equal.
-/

namespace DagMlData

open RustText

/-! ## Strings -/

/-- The character that an escape stands for, with the characters after the escape. The end of the
string is not a character. -/
def unescape : List Char → Option (Char × List Char)
  | '\\' :: 'u' :: _ :: _ :: high :: low :: rest =>
    some (Char.ofNat (16 * hexValue high + hexValue low), rest)
  | '\\' :: 'n' :: rest => some ('\n', rest)
  | '\\' :: 'r' :: rest => some ('\r', rest)
  | '\\' :: 't' :: rest => some ('\t', rest)
  | '\\' :: 'b' :: rest => some (Char.ofNat 8, rest)
  | '\\' :: 'f' :: rest => some (Char.ofNat 12, rest)
  | '\\' :: c :: rest => some (c, rest)
  | '"' :: _ => none
  | c :: rest => some (c, rest)
  | [] => none

theorem hexValue_hexDigit {n : Nat} (h : n < 16) : hexValue (hexDigit n) = n := by
  have hall : ∀ i < 16, hexValue (hexDigit i) = i := by decide
  exact hall n h

theorem unescape_escapeChar (c : Char) (rest : List Char) :
    unescape (escapeChar c ++ rest) = some (c, rest) := by
  unfold escapeChar
  split
  · rfl
  · rfl
  · rfl
  · rfl
  · rfl
  · next hquote hbackslash _ _ _ =>
    split
    · next h => rw [← Char.ofNat_toNat c, h]; rfl
    · split
      · next h => rw [← Char.ofNat_toNat c, h]; rfl
      · split
        · next h =>
          show some (Char.ofNat _, rest) = _
          rw [hexValue_hexDigit (by omega), hexValue_hexDigit (Nat.mod_lt _ (by decide)),
            Nat.div_add_mod, Char.ofNat_toNat]
        · show unescape (c :: rest) = _
          unfold unescape
          split
          all_goals simp_all

/-- The characters of a string and what follows its end are read back. -/
theorem escaped_inj {cs ds s t : List Char}
    (h : cs.flatMap escapeChar ++ '"' :: s = ds.flatMap escapeChar ++ '"' :: t) :
    cs = ds ∧ s = t := by
  induction cs generalizing ds with
  | nil =>
    cases ds with
    | nil => exact ⟨rfl, (List.cons.inj h).2⟩
    | cons d ds =>
      have hread := congrArg unescape h
      rw [List.flatMap_cons, List.append_assoc, unescape_escapeChar] at hread
      cases hread
  | cons c cs ih =>
    cases ds with
    | nil =>
      have hread := congrArg unescape h
      rw [List.flatMap_cons, List.append_assoc, unescape_escapeChar] at hread
      cases hread
    | cons d ds =>
      have hread := congrArg unescape h
      rw [List.flatMap_cons, List.flatMap_cons, List.append_assoc, List.append_assoc,
        unescape_escapeChar, unescape_escapeChar, Option.some.injEq, Prod.mk.injEq] at hread
      obtain ⟨hcs, hst⟩ := ih hread.2
      exact ⟨by rw [hread.1, hcs], hst⟩

theorem toList_quote (s : String) :
    (quote s).toList = '"' :: (s.toList.flatMap escapeChar ++ ['"']) := by
  simp [quote]

theorem quote_inj {a b : String} {s t : List Char}
    (h : (quote a).toList ++ s = (quote b).toList ++ t) : a = b ∧ s = t := by
  rw [toList_quote, toList_quote] at h
  simp only [List.cons_append, List.append_assoc, List.cons.injEq, true_and, List.nil_append] at h
  obtain ⟨hchars, hst⟩ := escaped_inj h
  exact ⟨String.toList_inj.mp hchars, hst⟩

/-! ## Numbers -/

def isNumberChar (c : Char) : Bool := c.isDigit || c == '-' || c == '+' || c == '.' || c == 'e'

/-- The text of a finite float: a fraction or an exponent tells it from an integer. -/
structure FloatText [ThirdParty] : Prop where
  injective : ∀ x y : F64, x.isFinite = true → y.isFinite = true →
    ThirdParty.formatF64 x = ThirdParty.formatF64 y → x = y
  chars : ∀ x : F64, x.isFinite = true →
    ∀ c ∈ (ThirdParty.formatF64 x).toList, isNumberChar c
  fraction : ∀ x : F64, x.isFinite = true →
    ∃ c ∈ (ThirdParty.formatF64 x).toList, c = '.' ∨ c = 'e'

/-- The rest of a text after a value: it is over, or a separator or the end of a list follows. -/
def AfterValue (s : List Char) : Prop := ∀ c ∈ s.head?, c = ',' ∨ c = ']' ∨ c = '\x7d'

theorem AfterValue.not_numberChar {s : List Char} (h : AfterValue s) {c : Char} {cs : List Char}
    (hs : s = c :: cs) : isNumberChar c = false := by
  subst hs
  rcases h c rfl with rfl | rfl | rfl <;> rfl

theorem number_chars_inj {p q s t : List Char} (hp : ∀ c ∈ p, isNumberChar c = true)
    (hq : ∀ c ∈ q, isNumberChar c = true) (hs : AfterValue s) (ht : AfterValue t)
    (h : p ++ s = q ++ t) : p = q ∧ s = t := by
  induction p generalizing q with
  | nil =>
    cases q with
    | nil => exact ⟨rfl, h⟩
    | cons d q =>
      have hfalse := hs.not_numberChar h
      rw [hq d List.mem_cons_self] at hfalse
      cases hfalse
  | cons c p ih =>
    cases q with
    | nil =>
      have hfalse := ht.not_numberChar h.symm
      rw [hp c List.mem_cons_self] at hfalse
      cases hfalse
    | cons d q =>
      obtain ⟨hcd, hrest⟩ := List.cons.inj h
      obtain ⟨hpq, hst⟩ := ih (fun x hx => hp x (List.mem_cons_of_mem _ hx))
        (fun x hx => hq x (List.mem_cons_of_mem _ hx)) hrest
      exact ⟨by rw [hcd, hpq], hst⟩

theorem digits_repr (n : Nat) : ∀ c ∈ n.repr.toList, c.isDigit = true := by
  rw [Nat.repr, String.toList_ofList]
  exact fun c hc => Nat.isDigit_of_mem_toDigits (by decide) (by decide) hc

theorem toList_negSucc (n : Nat) :
    (toString (Int.negSucc n)).toList = '-' :: (n + 1).repr.toList := by
  show ("-" ++ (n + 1).repr).toList = _
  simp

theorem digit_or_minus {n : Int} {c : Char} (hc : c ∈ (toString n).toList) :
    c.isDigit = true ∨ c = '-' := by
  cases n with
  | ofNat n => exact .inl (digits_repr n c hc)
  | negSucc n =>
    rw [toList_negSucc] at hc
    rcases List.mem_cons.mp hc with rfl | hc
    · exact .inr rfl
    · exact .inl (digits_repr _ c hc)

namespace JsonNumber

/-- An integer, or a float that has a text. -/
def Prints : JsonNumber → Prop
  | .int _ => True
  | .float x => x.isFinite = true

variable [ThirdParty]

theorem Prints.chars (htext : FloatText) {n : JsonNumber} (h : n.Prints) :
    ∀ c ∈ (Json.printNumber n).toList, isNumberChar c = true := by
  intro c hc
  cases n with
  | int n =>
    rcases digit_or_minus hc with hdigit | rfl
    · rw [isNumberChar, hdigit]
      rfl
    · rfl
  | float x => exact htext.chars x h c hc

/-- A fraction or an exponent has a character that an integer has not. -/
theorem int_ne_float (htext : FloatText) {n : Int} {x : F64} (hx : x.isFinite = true) :
    Json.printNumber (.int n) ≠ Json.printNumber (.float x) := by
  intro h
  obtain ⟨c, hc, hfraction⟩ := htext.fraction x hx
  have hint : c ∈ (toString n).toList := by
    rw [show toString n = ThirdParty.formatF64 x from h]
    exact hc
  rcases digit_or_minus hint with hdigit | rfl
  · rcases hfraction with rfl | rfl
    · cases hdigit
    · cases hdigit
  · rcases hfraction with heq | heq
    · cases heq
    · cases heq

theorem printNumber_inj (htext : FloatText) {m n : JsonNumber} (hm : m.Prints) (hn : n.Prints)
    (h : Json.printNumber m = Json.printNumber n) : m = n := by
  cases m with
  | int m =>
    cases n with
    | int n => rw [Int.repr_injective h]
    | float y => exact absurd h (int_ne_float htext hn)
  | float x =>
    cases n with
    | int n => exact absurd h.symm (int_ne_float htext hm)
    | float y => rw [htext.injective x y hm hn h]

theorem printNumber_ne_nil (htext : FloatText) {n : JsonNumber} (h : n.Prints) :
    (Json.printNumber n).toList ≠ [] := by
  cases n with
  | int n =>
    cases n with
    | ofNat n => exact fun hnil => Nat.repr_ne_empty (String.toList_eq_nil_iff.mp hnil)
    | negSucc n =>
      intro hnil
      rw [show (Json.printNumber (.int (Int.negSucc n))).toList = _ from toList_negSucc n] at hnil
      cases hnil
  | float x =>
    obtain ⟨c, hc, -⟩ := htext.fraction x h
    exact List.ne_nil_of_mem hc

end JsonNumber

/-! ## Values -/

namespace Json

mutual

/-- Every number of the value has a text. -/
def Prints : Json → Prop
  | .number n => n.Prints
  | .array items => PrintsItems items
  | .object fields => PrintsFields fields
  | _ => True

def PrintsItems : List Json → Prop
  | [] => True
  | item :: items => Prints item ∧ PrintsItems items

def PrintsFields : List (String × Json) → Prop
  | [] => True
  | (_, value) :: fields => Prints value ∧ PrintsFields fields

end

theorem printsItems_iff {items : List Json} : PrintsItems items ↔
    ∀ item ∈ items, item.Prints := by
  induction items with
  | nil => simp [PrintsItems]
  | cons item items ih => rw [PrintsItems, ih, List.forall_mem_cons]

theorem printsFields_iff {fields : List (String × Json)} :
    PrintsFields fields ↔ ∀ field ∈ fields, field.2.Prints := by
  induction fields with
  | nil => simp [PrintsFields]
  | cons field fields ih => rw [PrintsFields, ih, List.forall_mem_cons]

/-- The kind of a value. -/
def tag : Json → Nat
  | .null => 0
  | .bool true => 1
  | .bool false => 2
  | .number _ => 3
  | .string _ => 4
  | .array _ => 5
  | .object _ => 6

/-- The kind of a value by the first character of its text. -/
def tagOf (c : Char) : Nat :=
  if c = 'n' then 0 else if c = 't' then 1 else if c = 'f' then 2 else if c = '"' then 4
  else if c = '[' then 5 else if c = '{' then 6 else 3

section Texts
variable [ThirdParty]

/-- The characters after the first item. -/
def itemsTail : List Json → List Char
  | [] => []
  | item :: items => ',' :: (compactItems (item :: items)).toList

def fieldsTail : List (String × Json) → List Char
  | [] => []
  | field :: fields => ',' :: (compactFields (field :: fields)).toList

theorem toList_compactItems (item : Json) (items : List Json) :
    (compactItems (item :: items)).toList = (compact item).toList ++ itemsTail items := by
  cases items with
  | nil => simp [compactItems, itemsTail]
  | cons next items => simp [compactItems, itemsTail]

theorem toList_compactFields (field : String × Json) (fields : List (String × Json)) :
    (compactFields (field :: fields)).toList =
      (quote field.1).toList ++ (':' :: ((compact field.2).toList ++ fieldsTail fields)) := by
  cases fields with
  | nil => simp [compactFields, fieldsTail]
  | cons next fields => simp [compactFields, fieldsTail]

theorem afterValue_itemsTail (items : List Json) (s : List Char) :
    AfterValue (itemsTail items ++ ']' :: s) := by
  intro c hc
  cases items with
  | nil => exact .inr (.inl (Option.mem_some.mp hc).symm)
  | cons => exact .inl (Option.mem_some.mp hc).symm

theorem afterValue_fieldsTail (fields : List (String × Json)) (s : List Char) :
    AfterValue (fieldsTail fields ++ '}' :: s) := by
  intro c hc
  cases fields with
  | nil => exact .inr (.inr (Option.mem_some.mp hc).symm)
  | cons => exact .inl (Option.mem_some.mp hc).symm

omit [ThirdParty] in
theorem tagOf_numberChar {c : Char} (h : isNumberChar c = true) : tagOf c = 3 := by
  have hne : ∀ d : Char, isNumberChar d = false → c ≠ d := by
    rintro d hd rfl
    rw [h] at hd
    cases hd
  simp [tagOf, hne 'n' rfl, hne 't' rfl, hne 'f' rfl, hne '"' rfl, hne '[' rfl, hne '{' rfl]

/-- The first character of a text tells the kind, and is no separator. -/
theorem Prints.head (htext : FloatText) {j : Json} (h : j.Prints) :
    ∃ c cs, (compact j).toList = c :: cs ∧ tagOf c = j.tag ∧ c ≠ ']' := by
  cases j with
  | null => exact ⟨'n', "ull".toList, by rw [compact]; decide, rfl, by decide⟩
  | bool b =>
    cases b with
    | true => exact ⟨'t', "rue".toList, by rw [compact, if_pos rfl]; decide, rfl, by decide⟩
    | false => exact ⟨'f', "alse".toList, by rw [compact, if_neg nofun]; decide, rfl, by decide⟩
  | number n =>
    rw [Prints] at h
    obtain ⟨c, cs, hcs⟩ := List.exists_cons_of_ne_nil (n.printNumber_ne_nil htext h)
    have hc := h.chars htext c (hcs ▸ List.mem_cons_self)
    refine ⟨c, cs, hcs, tagOf_numberChar hc, ?_⟩
    rintro rfl
    cases hc
  | string s => exact ⟨_, _, toList_quote s, rfl, by decide⟩
  | array items => exact ⟨'[', _, by simp [compact]; rfl, rfl, by decide⟩
  | object fields => exact ⟨'{', _, by simp [compact]; rfl, rfl, by decide⟩

/-- A text of items, up to the end of the list. -/
def ItemsInj (items : List Json) : Prop := ∀ (others : List Json) (s t : List Char),
  PrintsItems items → PrintsItems others →
    (compactItems items).toList ++ ']' :: s = (compactItems others).toList ++ ']' :: t →
      items = others ∧ s = t

def FieldsInj (fields : List (String × Json)) : Prop := ∀ (others : List (String × Json))
  (s t : List Char), PrintsFields fields → PrintsFields others →
    (compactFields fields).toList ++ '\x7d' :: s = (compactFields others).toList ++ '\x7d' :: t →
      fields = others ∧ s = t

/-- A text of a value, up to what may follow it. -/
def ValueInj (j : Json) : Prop := ∀ (k : Json) (s t : List Char), j.Prints → k.Prints →
  AfterValue s → AfterValue t →
    (compact j).toList ++ s = (compact k).toList ++ t → j = k ∧ s = t

/-- Texts that agree are of values of one kind. -/
theorem tag_eq (htext : FloatText) {j k : Json} {s t : List Char} (hj : j.Prints) (hk : k.Prints)
    (h : (compact j).toList ++ s = (compact k).toList ++ t) : j.tag = k.tag := by
  obtain ⟨c, cs, hc, htag, -⟩ := hj.head htext
  obtain ⟨d, ds, hd, htag', -⟩ := hk.head htext
  rw [hc, hd] at h
  rw [← htag, ← htag', (List.cons.inj h).1]

theorem itemsInj_nil (htext : FloatText) : ItemsInj [] := by
  intro others s t _ hothers h
  cases others with
  | nil => exact ⟨rfl, (List.cons.inj h).2⟩
  | cons k others =>
    obtain ⟨d, ds, hd, -, hne⟩ := hothers.1.head htext
    rw [toList_compactItems, hd] at h
    exact absurd (List.cons.inj h).1.symm hne

theorem itemsInj_cons (htext : FloatText) {j : Json} {items : List Json} (hvalue : ValueInj j)
    (hitems : ItemsInj items) : ItemsInj (j :: items) := by
  intro others s t hprints hothers h
  cases others with
  | nil =>
    obtain ⟨d, ds, hd, -, hne⟩ := hprints.1.head htext
    rw [toList_compactItems, hd] at h
    exact absurd (List.cons.inj h).1 hne
  | cons k others =>
    rw [toList_compactItems, toList_compactItems, List.append_assoc, List.append_assoc] at h
    obtain ⟨hjk, hrest⟩ := hvalue k _ _ hprints.1 hothers.1 (afterValue_itemsTail items s)
      (afterValue_itemsTail others t) h
    cases items with
    | nil =>
      cases others with
      | nil => exact ⟨by rw [hjk], (List.cons.inj hrest).2⟩
      | cons => cases (List.cons.inj hrest).1
    | cons item items =>
      cases others with
      | nil => cases (List.cons.inj hrest).1
      | cons other others =>
        obtain ⟨hsame, hst⟩ := hitems _ s t hprints.2 hothers.2 (List.cons.inj hrest).2
        exact ⟨by rw [hjk, hsame], hst⟩

theorem fieldsInj_nil : FieldsInj [] := by
  intro others s t _ _ h
  cases others with
  | nil => exact ⟨rfl, (List.cons.inj h).2⟩
  | cons field others =>
    rw [toList_compactFields, toList_quote] at h
    cases (List.cons.inj h).1

theorem fieldsInj_cons {key : String} {j : Json} {fields : List (String × Json)}
    (hvalue : ValueInj j) (hfields : FieldsInj fields) : FieldsInj ((key, j) :: fields) := by
  intro others s t hprints hothers h
  cases others with
  | nil =>
    rw [toList_compactFields, toList_quote] at h
    cases (List.cons.inj h).1
  | cons other others =>
    obtain ⟨key', k⟩ := other
    rw [toList_compactFields, toList_compactFields, List.append_assoc, List.append_assoc] at h
    obtain ⟨(hkey : key = key'), hrest⟩ := quote_inj h
    rw [List.cons_append, List.cons_append, List.append_assoc, List.append_assoc] at hrest
    obtain ⟨hjk, hrest⟩ := hvalue k _ _ hprints.1 hothers.1 (afterValue_fieldsTail fields s)
      (afterValue_fieldsTail others t) (List.cons.inj hrest).2
    cases fields with
    | nil =>
      cases others with
      | nil => exact ⟨by rw [hkey, hjk], (List.cons.inj hrest).2⟩
      | cons => cases (List.cons.inj hrest).1
    | cons field fields =>
      cases others with
      | nil => cases (List.cons.inj hrest).1
      | cons other others =>
        obtain ⟨hsame, hst⟩ := hfields _ s t hprints.2 hothers.2 (List.cons.inj hrest).2
        exact ⟨by rw [hkey, hjk, hsame], hst⟩

mutual

theorem valueInj (htext : FloatText) : ∀ j : Json, ValueInj j
  | .null => by
    intro k s t hj hk _ _ h
    have htag := tag_eq htext hj hk h
    cases k with
    | null => exact ⟨rfl, List.append_cancel_left h⟩
    | bool b => cases b <;> cases htag
    | number | string | array | object => cases htag
  | .bool b => by
    intro k s t hj hk _ _ h
    have htag := tag_eq htext hj hk h
    cases k with
    | bool b' =>
      have hb : b = b' := by
        cases b <;> cases b' <;> first | rfl | cases htag
      subst hb
      exact ⟨rfl, List.append_cancel_left h⟩
    | null | number | string | array | object => cases b <;> cases htag
  | .number n => by
    intro k s t hj hk hs ht h
    have htag := tag_eq htext hj hk h
    cases k with
    | number m =>
      rw [Prints] at hj hk
      obtain ⟨hchars, hst⟩ := number_chars_inj (hj.chars htext) (hk.chars htext) hs ht h
      exact ⟨by rw [JsonNumber.printNumber_inj htext hj hk (String.toList_inj.mp hchars)], hst⟩
    | bool b => cases b <;> cases htag
    | null | string | array | object => cases htag
  | .string a => by
    intro k s t hj hk _ _ h
    have htag := tag_eq htext hj hk h
    cases k with
    | string b =>
      obtain ⟨hab, hst⟩ := quote_inj h
      exact ⟨by rw [hab], hst⟩
    | bool b => cases b <;> cases htag
    | null | number | array | object => cases htag
  | .array items => by
    intro k s t hj hk _ _ h
    have htag := tag_eq htext hj hk h
    cases k with
    | array others =>
      rw [Prints] at hj hk
      simp only [compact, String.toList_append, List.append_assoc] at h
      obtain ⟨hitems, hst⟩ := itemsInj htext items others s t hj hk (List.cons.inj h).2
      exact ⟨by rw [hitems], hst⟩
    | bool b => cases b <;> cases htag
    | null | number | string | object => cases htag
  | .object fields => by
    intro k s t hj hk _ _ h
    have htag := tag_eq htext hj hk h
    cases k with
    | object others =>
      rw [Prints] at hj hk
      simp only [compact, String.toList_append, List.append_assoc] at h
      obtain ⟨hfields, hst⟩ := fieldsInj htext fields others s t hj hk (List.cons.inj h).2
      exact ⟨by rw [hfields], hst⟩
    | bool b => cases b <;> cases htag
    | null | number | string | array => cases htag

theorem itemsInj (htext : FloatText) : ∀ items : List Json, ItemsInj items
  | [] => itemsInj_nil htext
  | item :: items => itemsInj_cons htext (valueInj htext item) (itemsInj htext items)

theorem fieldsInj (htext : FloatText) : ∀ fields : List (String × Json), FieldsInj fields
  | [] => fieldsInj_nil
  | (_, value) :: fields => fieldsInj_cons (valueInj htext value) (fieldsInj htext fields)

end

/-- The text of a value determines it. -/
theorem compact_inj (htext : FloatText) {j k : Json} (hj : j.Prints) (hk : k.Prints)
    (h : j.compact = k.compact) : j = k := by
  have hnil : AfterValue [] := by
    intro c hc
    cases hc
  refine (valueInj htext j k [] [] hj hk hnil hnil ?_).1
  rw [h]

end Texts

end Json

end DagMlData
