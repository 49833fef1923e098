import SnippetCoach.Proofs.Json.Layout
import SnippetCoach.Proofs.OrderedMap
import SnippetCoach.Proofs.Outcome
/-! Documents read as they were written: the values that a reader can give are those that a writer
brings back, in either layout. Halves that make a pair come back as their character. -/
namespace SnippetCoach.Json
open Number

/-- What a text can hold when so many containers can be opened within each other: exact numbers
within the limit of digits, numbers of the format, allowed texts, and fields with distinct names. -/
inductive Readable (Allowed : WideText → Prop) : Nat → WideJson → Prop where
  | null {levels : Nat} : Readable Allowed levels .null
  | bool {levels : Nat} (b : Bool) : Readable Allowed levels (.bool b)
  | int {levels : Nat} {n : Int} (limit : fitsDigitLimit n = true) :
      Readable Allowed levels (.int n)
  | float {levels : Nat} {x : Binary64} (canonical : x.IsCanonical) :
      Readable Allowed levels (.float x)
  | str {levels : Nat} {text : WideText} (allowed : Allowed text) :
      Readable Allowed levels (.str text)
  | arr {levels : Nat} {items : List WideJson}
      (readable : ∀ item ∈ items, Readable Allowed levels item) :
      Readable Allowed (levels + 1) (.arr items)
  | obj {levels : Nat} {fields : List (WideText × WideJson)}
      (distinct : (fields.map Prod.fst).Nodup) (allowed : ∀ field ∈ fields, Allowed field.1)
      (readable : ∀ field ∈ fields, Readable Allowed levels field.2) :
      Readable Allowed (levels + 1) (.obj fields)

theorem Readable.nodup {Allowed : WideText → Prop} {levels : Nat}
    {fields : List (WideText × WideJson)} (h : Readable Allowed levels (.obj fields)) :
    (fields.map Prod.fst).Nodup := by
  cases h with
  | obj distinct => exact distinct

section Paired

mutual
/-- The value with the pairs of its texts joined. Of fields that get one name the last counts. -/
def paired : WideJson → WideJson
  | null => null
  | bool b => bool b
  | int n => int n
  | float x => float x
  | str text => str (pairText text)
  | arr items => arr (pairedItems items)
  | obj fields => ofMap (OrderedMap.ofList (pairedFields fields))

def pairedItems : List WideJson → List WideJson
  | [] => []
  | item :: rest => item.paired :: pairedItems rest

def pairedFields : List (WideText × WideJson) → List (WideText × WideJson)
  | [] => []
  | (name, value) :: rest => (pairText name, value.paired) :: pairedFields rest
end

theorem pairedItems_eq_map (items : List WideJson) : pairedItems items = items.map paired := by
  induction items with
  | nil => rfl
  | cons item rest ih => rw [pairedItems, ih, List.map_cons]

theorem pairedFields_eq_map (fields : List (WideText × WideJson)) :
    pairedFields fields = fields.map fun field => (pairText field.1, field.2.paired) := by
  induction fields with
  | nil => rfl
  | cons field rest ih => rw [pairedFields, ih, List.map_cons]

/-- Where no halves make a pair there is nothing to join. -/
theorem Readable.paired_eq {levels : Nat} {value : WideJson}
    (h : Readable WideText.Joined levels value) : value.paired = value := by
  induction h with
  | null | bool | int | float => rfl
  | str joined => rw [paired, pairText_of_joined joined]
  | arr _ ih =>
      rw [paired, pairedItems_eq_map, List.map_congr_left ih, List.map_id']
  | @obj _ fields distinct joined _ ih =>
      have hsame : pairedFields fields = fields := by
        rw [pairedFields_eq_map]
        refine (List.map_congr_left fun field hfield => ?_).trans (List.map_id' fields)
        rw [pairText_of_joined (joined field hfield), ih field hfield]
      rw [paired, hsame, ofMap, OrderedMap.ofList_eq distinct]

end Paired

section Containers

variable {layout : Layout} {levels outer : Nat} {rest : List Char}

/-- Written in front of anything that ends it, the value is read with its pairs joined, and that is
left over. -/
def ReadsBack (layout : Layout) (levels : Nat) (value : WideJson) : Prop :=
  ∀ (depth fuel : Nat) (rest : List Char), EndsNumber rest →
    2 * (write layout depth value rest).length + 1 ≤ fuel →
    readValue fuel levels (codePoints (write layout depth value rest)) =
      .ok (value.paired, codePoints rest)

theorem skipSpace_close {c : Char} (hc : isSpace (.char c) = false) :
    skipSpace (codePoints (layout.gap outer ++ c :: rest)) = codePoints (c :: rest) := by
  rw [codePoints_append, skipSpace_gap, codePoints_cons, skipSpace_cons hc]

theorem endsNumber_writeItems (depth : Nat) (items : List WideJson) {close : List Char}
    (hclose : EndsNumber close) : EndsNumber (writeItems layout depth items close) := by
  cases items with
  | nil => exact hclose
  | cons item items =>
      obtain ⟨blank, heq, -⟩ := separator_eq layout depth
      rw [writeItems, heq, List.cons_append]
      exact endsNumber_cons (by decide)

theorem readItems_write {depth : Nat} {item : WideJson} {items : List WideJson}
    (hread : ∀ value ∈ item :: items, ReadsBack layout levels value) {fuel : Nat}
    (hfuel : 2 * (write layout depth item
      (writeItems layout depth items (layout.gap outer ++ ']' :: rest))).length + 2 ≤ fuel) :
    readItems fuel levels (codePoints (write layout depth item
      (writeItems layout depth items (layout.gap outer ++ ']' :: rest)))) =
      .ok (pairedItems (item :: items), codePoints rest) := by
  have hclose : EndsNumber (layout.gap outer ++ ']' :: rest) :=
    endsNumber_gap layout outer (endsNumber_cons (by decide))
  induction items generalizing item fuel with
  | nil =>
      obtain ⟨fuel, rfl⟩ := Nat.exists_eq_add_of_le' (Nat.le_trans (Nat.le_add_left 1 _) hfuel)
      have hitem := hread item List.mem_cons_self depth fuel _ hclose
        (Nat.le_of_succ_le_succ hfuel)
      rw [writeItems, readItems, hitem]
      simp only [bind, Except.bind, skipSpace_close (c := ']') rfl]
      rfl
  | cons next items ih =>
      obtain ⟨fuel, rfl⟩ := Nat.exists_eq_add_of_le' (Nat.le_trans (Nat.le_add_left 1 _) hfuel)
      have hitem := hread item List.mem_cons_self depth fuel _
        (endsNumber_writeItems depth (next :: items) hclose) (Nat.le_of_succ_le_succ hfuel)
      obtain ⟨blank, hseparator, hblank⟩ := separator_eq layout depth
      have htext : writeItems layout depth (next :: items) (layout.gap outer ++ ']' :: rest) =
          ',' :: (blank ++ write layout depth next
            (writeItems layout depth items (layout.gap outer ++ ']' :: rest))) := by
        rw [writeItems, hseparator, List.cons_append]
      have hshorter := length_lt_write layout depth
        (writeItems layout depth (next :: items) (layout.gap outer ++ ']' :: rest)) item
      have hcount := congrArg List.length htext
      rw [List.length_cons, List.length_append] at hcount
      have hshort : 2 * (write layout depth next
          (writeItems layout depth items (layout.gap outer ++ ']' :: rest))).length + 2 ≤ fuel := by
        omega
      have hnext := ih (fun value hvalue => hread value (List.mem_cons_of_mem item hvalue)) hshort
      rw [readItems, hitem]
      simp only [bind, Except.bind, htext, codePoints_cons, codePoints_append,
        skipSpace_cons (p := .char ',') rfl, skipSpace_append hblank, skipSpace_write, hnext]
      rfl

theorem endsNumber_writeFields (depth : Nat) (fields : List (WideText × WideJson))
    {close : List Char} (hclose : EndsNumber close) :
    EndsNumber (writeFields layout depth fields close) := by
  cases fields with
  | nil => exact hclose
  | cons field fields =>
      obtain ⟨blank, heq, -⟩ := separator_eq layout depth
      rw [writeFields, heq, List.cons_append]
      exact endsNumber_cons (by decide)

/-- A name, its value and what comes after, up to the reader's choice at the next character. -/
theorem readFields_field {depth fuel : Nat} {name : WideText} {value : WideJson}
    {after : List Char} (hread : ReadsBack layout levels value) (hafter : EndsNumber after)
    (hfuel : 2 * (quote name (':' :: ' ' :: write layout depth value after)).length ≤ fuel) :
    readFields (fuel + 1) levels
        (codePoints (quote name (':' :: ' ' :: write layout depth value after))) =
      match skipSpace (codePoints after) with
      | .char '\x7d' :: rest => .ok ([(pairText name, value.paired)], rest)
      | .char ',' :: rest => do
        let (fields, rest) ← readFields fuel levels (skipSpace rest)
        return ((pairText name, value.paired) :: fields, rest)
      | _ => .error .malformed := by
  have hname := length_le_escaped name.points
  simp only [quote, List.length_cons, List.length_append] at hfuel
  have hshort : name.points.length ≤ fuel := by omega
  have hstring :=
    readString?_escaped name.points (':' :: ' ' :: write layout depth value after) hshort
  have hvalue := hread depth fuel after hafter (by omega)
  rw [quote, codePoints_cons, readFields, hstring]
  simp only [orMalformed, Option.elim, bind, Except.bind, codePoints_cons,
    skipSpace_cons (p := .char ':') rfl, skipSpace_blank, skipSpace_write, hvalue]
  rfl

theorem readFields_write {depth : Nat} {name : WideText} {value : WideJson}
    {fields : List (WideText × WideJson)}
    (hread : ∀ field ∈ (name, value) :: fields, ReadsBack layout levels field.2) {fuel : Nat}
    (hfuel : 2 * (quote name (':' :: ' ' :: write layout depth value
      (writeFields layout depth fields (layout.gap outer ++ '\x7d' :: rest)))).length + 2 ≤ fuel) :
    readFields fuel levels (codePoints (quote name (':' :: ' ' :: write layout depth value
      (writeFields layout depth fields (layout.gap outer ++ '\x7d' :: rest))))) =
      .ok (pairedFields ((name, value) :: fields), codePoints rest) := by
  have hclose : EndsNumber (layout.gap outer ++ '\x7d' :: rest) :=
    endsNumber_gap layout outer (endsNumber_cons (by decide))
  induction fields generalizing name value fuel with
  | nil =>
      obtain ⟨fuel, rfl⟩ := Nat.exists_eq_add_of_le' (Nat.le_trans (Nat.le_add_left 1 _) hfuel)
      have hvalue : ReadsBack layout levels value := hread (name, value) List.mem_cons_self
      rw [writeFields, readFields_field hvalue hclose (by rw [writeFields] at hfuel; omega),
        skipSpace_close (c := '\x7d') rfl]
      rfl
  | cons next fields ih =>
      obtain ⟨fuel, rfl⟩ := Nat.exists_eq_add_of_le' (Nat.le_trans (Nat.le_add_left 1 _) hfuel)
      have hvalue : ReadsBack layout levels value := hread (name, value) List.mem_cons_self
      obtain ⟨blank, hseparator, hblank⟩ := separator_eq layout depth
      have htext : writeFields layout depth (next :: fields) (layout.gap outer ++ '\x7d' :: rest) =
          ',' :: (blank ++ quote next.1 (':' :: ' ' :: write layout depth next.2
            (writeFields layout depth fields (layout.gap outer ++ '\x7d' :: rest)))) := by
        rw [writeFields, hseparator, List.cons_append]
      have hshorter := length_lt_write layout depth
        (writeFields layout depth (next :: fields) (layout.gap outer ++ '\x7d' :: rest)) value
      have hcount := congrArg List.length htext
      rw [List.length_cons, List.length_append] at hcount
      have hlong : (write layout depth value (writeFields layout depth (next :: fields)
            (layout.gap outer ++ '\x7d' :: rest))).length <
          (quote name (':' :: ' ' :: write layout depth value (writeFields layout depth
            (next :: fields) (layout.gap outer ++ '\x7d' :: rest)))).length := by
        simp only [quote, List.length_cons, List.length_append]
        omega
      have hshort : 2 * (quote next.1 (':' :: ' ' :: write layout depth next.2
          (writeFields layout depth fields (layout.gap outer ++ '\x7d' :: rest)))).length + 2 ≤
            fuel := by
        omega
      have hnext := ih (fun field hfield => hread field (List.mem_cons_of_mem _ hfield)) hshort
      rw [readFields_field hvalue (endsNumber_writeFields depth (next :: fields) hclose)
        (by omega), htext, codePoints_cons, skipSpace_cons (p := .char ',') rfl]
      simp only [codePoints_append, skipSpace_append hblank, skipSpace_quote, hnext]
      rfl

theorem readValue_array {fuel : Nat} {blank : List Char} {text : List CodePoint}
    (hblank : ∀ c ∈ blank, isSpace (.char c) = true) (htext : skipSpace text = text)
    (hclose : text.head? ≠ some (.char ']')) :
    readValue (fuel + 1) (levels + 1) (.char '[' :: (codePoints blank ++ text)) =
      (readItems fuel levels text).map fun (items, rest) => (.arr items, rest) := by
  rw [readValue, skipSpace_append hblank, htext]
  split
  · exact absurd rfl hclose
  · cases readItems fuel levels text <;> rfl

theorem readValue_object {fuel : Nat} {blank : List Char} {text : List CodePoint}
    (hblank : ∀ c ∈ blank, isSpace (.char c) = true) (htext : skipSpace text = text)
    (hclose : text.head? ≠ some (.char '\x7d')) :
    readValue (fuel + 1) (levels + 1) (.char '\x7b' :: (codePoints blank ++ text)) =
      (readFields fuel levels text).map fun (fields, rest) =>
        (ofMap (OrderedMap.ofList fields), rest) := by
  rw [readValue, skipSpace_append hblank, htext]
  split
  · exact absurd rfl hclose
  · cases readFields fuel levels text <;> rfl

end Containers

theorem readScalar_codePoints {text rest : List Char} {value : WideJson}
    (h : readPlain text = .ok (value, rest)) :
    readScalar (codePoints text) = .ok (value, codePoints rest) := by
  rw [readScalar, WideText.splitChars_codePoints]
  simp only [h, bind, Except.bind, pure, Except.pure, List.append_nil]

theorem readsBack_of_scalar {layout : Layout} {levels : Nat} {value : WideJson} {text : List Char}
    (hpaired : value.paired = value)
    (hwrite : ∀ depth rest, write layout depth value rest = text ++ rest)
    (hstart : ∃ c more, text = c :: more ∧ StartsScalar c)
    (hread : ∀ rest, EndsNumber rest → readPlain (text ++ rest) = .ok (value, rest)) :
    ReadsBack layout levels value := by
  intro depth fuel rest hrest hfuel
  obtain ⟨fuel, rfl⟩ := Nat.exists_eq_add_of_le' (Nat.le_trans (Nat.le_add_left 1 _) hfuel)
  have hscalar := readScalar_codePoints (hread rest hrest)
  obtain ⟨c, more, rfl, hc⟩ := hstart
  rw [hpaired, hwrite, List.cons_append, codePoints_cons, readValue_scalar hc]
  exact hscalar

/-- Whatever the layout, the depth and what follows, a readable value is read back. -/
theorem Readable.readsBack {Allowed : WideText → Prop} {levels : Nat} {value : WideJson}
    (h : Readable Allowed levels value) (layout : Layout) :
    ReadsBack layout levels value := by
  induction h with
  | null =>
      exact readsBack_of_scalar rfl (fun _ _ => rfl) ⟨'n', _, rfl, .inl (by decide)⟩ fun _ _ => rfl
  | bool b =>
      cases b with
      | true =>
          exact readsBack_of_scalar rfl (fun _ _ => rfl) ⟨'t', _, rfl, .inl (by decide)⟩
            fun _ _ => rfl
      | false =>
          exact readsBack_of_scalar rfl (fun _ _ => rfl) ⟨'f', _, rfl, .inl (by decide)⟩
            fun _ _ => rfl
  | @int _ n limit =>
      exact readsBack_of_scalar rfl (fun _ _ => by rw [write]) (intText_cons n)
        fun _ hrest => readPlain_intText limit hrest
  | @float _ x canonical =>
      exact readsBack_of_scalar rfl (fun _ _ => by rw [write]) (float_cons x)
        fun _ hrest => readPlain_write canonical hrest
  | @str _ text _ =>
      intro depth fuel rest hrest hfuel
      obtain ⟨fuel, rfl⟩ := Nat.exists_eq_add_of_le' (Nat.le_trans (Nat.le_add_left 1 _) hfuel)
      have hlength := length_le_escaped text.points
      rw [write] at hfuel ⊢
      simp only [quote, List.length_cons, List.length_append] at hfuel
      rw [quote, codePoints_cons, readValue, readString?_escaped text.points rest (by omega)]
      rfl
  | @arr levels items _ ih =>
      intro depth fuel rest hrest hfuel
      obtain ⟨fuel, rfl⟩ := Nat.exists_eq_add_of_le' (Nat.le_trans (Nat.le_add_left 1 _) hfuel)
      cases items with
      | nil => rw [write, codePoints_cons, readValue]; rfl
      | cons item items =>
          obtain ⟨c, more, heq, hc⟩ := write_cons layout (depth + 1) item
            (writeItems layout (depth + 1) items (layout.gap depth ++ ']' :: rest))
          rw [write] at hfuel ⊢
          simp only [List.length_cons, List.length_append] at hfuel
          rw [codePoints_cons, codePoints_append,
            readValue_array (fun _ => isSpace_of_mem_gap) (skipSpace_write _ _ _ _),
            readItems_write ih (by omega)]
          · rfl
          · rw [heq]
            exact fun h => hc.ne (by decide) (by decide) (CodePoint.char.inj (Option.some.inj h))
  | @obj levels fields _ _ _ ih =>
      intro depth fuel rest hrest hfuel
      obtain ⟨fuel, rfl⟩ := Nat.exists_eq_add_of_le' (Nat.le_trans (Nat.le_add_left 1 _) hfuel)
      cases fields with
      | nil => rw [write, codePoints_cons, readValue]; rfl
      | cons field fields =>
          rw [write] at hfuel ⊢
          simp only [List.length_cons, List.length_append] at hfuel
          rw [codePoints_cons, codePoints_append,
            readValue_object (fun _ => isSpace_of_mem_gap) (skipSpace_quote _ _),
            readFields_write ih (by omega)]
          · rfl
          · exact fun h => absurd (CodePoint.char.inj (Option.some.inj h)) (by decide)

section Texts

variable {Allowed : WideText → Prop} {levels : Nat} {value : WideJson}

/-- A document that can be read is read from what is written for it. -/
theorem read_write {layout : Layout} (h : Readable Allowed levels value) :
    read levels (codePoints (write layout 0 value [])) = .ok value.paired := by
  have hend : EndsNumber [] := fun c hc => absurd hc (by simp)
  have hread := h.readsBack layout 0 _ [] hend (Nat.le_refl _)
  rw [read, skipSpace_write, length_codePoints, hread]
  rfl

theorem read_compactText_paired (h : Readable Allowed levels value) :
    read levels (codePoints value.compactText.toList) = .ok value.paired := by
  rw [compactText, String.toList_ofList, read_write h]

theorem read_compactText (h : Readable WideText.Joined levels value) :
    read levels (codePoints value.compactText.toList) = .ok value := by
  rw [read_compactText_paired h, h.paired_eq]

theorem read_indentedText (h : Readable WideText.Joined levels value) :
    read levels (codePoints value.indentedText.toList) = .ok value := by
  rw [indentedText, String.toList_ofList, read_write h, h.paired_eq]

end Texts

section Sound

theorem orMalformed_eq_ok_iff {α : Type} {result : Option α} {a : α} :
    orMalformed result = .ok a ↔ result = some a := by
  cases result <;> simp [orMalformed]

theorem digits_takeWhile (text : List Char) : Digits (text.takeWhile Char.isDigit) :=
  List.all_eq_true.mp List.all_takeWhile

theorem digits_of_splitWhole? {text whole rest : List Char}
    (h : splitWhole? text = some (whole, rest)) : Digits whole := by
  rw [splitWhole?.eq_def] at h
  split at h
  · obtain ⟨rfl, -⟩ := Prod.mk.inj (Option.some.inj h)
    exact digits_zeros 1
  · split at h
    · exact absurd h (by simp)
    · obtain ⟨rfl, -⟩ := Prod.mk.inj (Option.some.inj h)
      exact digits_takeWhile text

theorem natAbs_signed (negative : Bool) (n : Nat) : (signed negative n).natAbs = n := by
  cases negative <;> simp [signed]

section Scalars

variable {Allowed : WideText → Prop} {levels : Nat} {value : WideJson}

theorem readable_readNumber {negative : Bool} {text rest : List Char}
    (h : readNumber negative text = .ok (value, rest)) : Readable Allowed levels value := by
  cases hwhole : splitWhole? text with
  | none => simp [readNumber, hwhole, orMalformed, bind, Except.bind] at h
  | some split =>
      obtain ⟨whole, afterWhole⟩ := split
      obtain ⟨fraction, afterFraction, hfraction⟩ : ∃ fraction afterFraction,
          splitFraction afterWhole = (fraction, afterFraction) := ⟨_, _, rfl⟩
      obtain ⟨exponent, after, hexponent⟩ : ∃ exponent after,
          splitExponent afterFraction = (exponent, after) := ⟨_, _, rfl⟩
      rw [readNumber_of_splits negative hwhole hfraction hexponent] at h
      split at h
      · obtain ⟨rfl, -⟩ := Prod.mk.inj (Except.ok.inj h)
        exact .float (Binary64.isCanonical_ofDecimal _ _ _)
      · split at h
        · exact absurd h (by simp)
        · rename_i hlimit
          obtain ⟨rfl, -⟩ := Prod.mk.inj (Except.ok.inj h)
          refine .int (fitsDigitLimit_iff.mpr ?_)
          rw [natAbs_signed]
          exact Nat.lt_of_lt_of_le (digitsValue_lt (digits_of_splitWhole? hwhole))
            (Nat.pow_le_pow_right (by decide) (Nat.not_lt.mp hlimit))

theorem readable_of_mem_words {word : String} (h : (word, value) ∈ words) :
    Readable Allowed levels value := by
  simp only [words, List.mem_cons, Prod.mk.injEq, List.not_mem_nil, or_false] at h
  rcases h with ⟨-, rfl⟩ | ⟨-, rfl⟩ | ⟨-, rfl⟩ | ⟨-, rfl⟩ | ⟨-, rfl⟩ | ⟨-, rfl⟩
  · exact .null
  · exact .bool true
  · exact .bool false
  all_goals exact .float trivial

theorem readable_readPlain {text rest : List Char} (h : readPlain text = .ok (value, rest)) :
    Readable Allowed levels value := by
  rw [readPlain.eq_def] at h
  split at h
  · rename_i result _ hword
    obtain ⟨⟨word, found⟩, hmem, hfound⟩ := List.exists_of_findSome?_eq_some hword
    obtain ⟨after, -, hresult⟩ := Option.map_eq_some_iff.mp hfound
    rw [← hresult] at h
    obtain ⟨rfl, -⟩ := Prod.mk.inj (Except.ok.inj h)
    exact readable_of_mem_words hmem
  · exact readable_readNumber h
  · exact readable_readNumber h

theorem readable_readScalar {text rest : List CodePoint}
    (h : readScalar text = .ok (value, rest)) : Readable Allowed levels value := by
  obtain ⟨⟨found, after⟩, hread, hreturn⟩ := bind_eq_ok_iff.mp h
  obtain ⟨rfl, -⟩ := Prod.mk.inj (Except.ok.inj hreturn)
  exact readable_readPlain hread

theorem isPlain_of_readScalar {text rest : List CodePoint} (hplain : IsPlain text)
    (h : readScalar text = .ok (value, rest)) : IsPlain rest := by
  obtain ⟨chars, rfl⟩ := hplain
  rw [readScalar, WideText.splitChars_codePoints] at h
  obtain ⟨⟨found, after⟩, -, hreturn⟩ := bind_eq_ok_iff.mp h
  obtain ⟨-, rfl⟩ := Prod.mk.inj (Except.ok.inj hreturn)
  exact ⟨after, List.append_nil _⟩

end Scalars

theorem readable_ofMap_ofList {Allowed : WideText → Prop} {levels : Nat}
    {fields : List (WideText × WideJson)} (hallowed : ∀ field ∈ fields, Allowed field.1)
    (h : ∀ field ∈ fields, Readable Allowed levels field.2) :
    Readable Allowed (levels + 1) (ofMap (OrderedMap.ofList fields)) :=
  .obj (OrderedMap.ofList fields).distinct
    (fun field hfield => hallowed field (OrderedMap.mem_entries_ofList hfield))
    fun field hfield => h field (OrderedMap.mem_entries_ofList hfield)

/-- Of texts of one kind the readers leave texts of that kind, and the strings in them are
allowed. -/
structure Admits (Kind : List CodePoint → Prop) (Allowed : WideText → Prop) : Prop where
  tail : ∀ {point rest}, Kind (point :: rest) → Kind rest
  string : ∀ {fuel text points rest}, Kind text → readString? fuel text = some (points, rest) →
    Allowed { points } ∧ Kind rest
  scalar : ∀ {text value rest}, Kind text → readScalar text = .ok (value, rest) → Kind rest

theorem admits_any : Admits (fun _ => True) (fun _ => True) :=
  { tail := fun _ => trivial
    string := fun _ _ => ⟨trivial, trivial⟩
    scalar := fun _ _ => trivial }

theorem admits_plain : Admits IsPlain WideText.Joined :=
  { tail := IsPlain.tail
    string := joined_of_readString?
    scalar := isPlain_of_readScalar }

section Readers

variable {Kind : List CodePoint → Prop} {Allowed : WideText → Prop} (admits : Admits Kind Allowed)

theorem Admits.skipSpace (admits : Admits Kind Allowed) {text : List CodePoint} (h : Kind text) :
    Kind (Json.skipSpace text) := by
  induction text with
  | nil => exact h
  | cons point rest ih =>
      rw [Json.skipSpace, List.dropWhile_cons]
      split
      · exact ih (admits.tail h)
      · exact h

/-- Whatever a reader gives with this fuel is readable. -/
structure GivesReadable (Kind : List CodePoint → Prop) (Allowed : WideText → Prop)
    (fuel : Nat) : Prop where
  value : ∀ {levels text value rest}, Kind text → readValue fuel levels text = .ok (value, rest) →
    Readable Allowed levels value ∧ Kind rest
  items : ∀ {levels text items rest}, Kind text → readItems fuel levels text = .ok (items, rest) →
    (∀ item ∈ items, Readable Allowed levels item) ∧ Kind rest
  fields : ∀ {levels text fields rest}, Kind text →
    readFields fuel levels text = .ok (fields, rest) →
      (∀ field ∈ fields, Allowed field.1) ∧
        (∀ field ∈ fields, Readable Allowed levels field.2) ∧ Kind rest

theorem givesReadable_zero : GivesReadable Kind Allowed 0 where
  value _ h := nomatch h
  items _ h := nomatch h
  fields _ h := nomatch h

namespace GivesReadable

variable {fuel levels : Nat} {text rest : List CodePoint}

include admits

theorem value_succ (ih : GivesReadable Kind Allowed fuel) {value : WideJson} (hkind : Kind text)
    (h : readValue (fuel + 1) levels text = .ok (value, rest)) :
    Readable Allowed levels value ∧ Kind rest := by
  rw [readValue.eq_def] at h
  dsimp only at h
  split at h
  · obtain ⟨⟨points, after⟩, hstring, hreturn⟩ := bind_eq_ok_iff.mp h
    obtain ⟨rfl, rfl⟩ := Prod.mk.inj (Except.ok.inj hreturn)
    obtain ⟨hallowed, hafter⟩ :=
      admits.string (admits.tail hkind) (orMalformed_eq_ok_iff.mp hstring)
    exact ⟨.str hallowed, hafter⟩
  · cases h
  · cases h
  · have hinner := admits.skipSpace (admits.tail hkind)
    split at h
    · rename_i heq
      obtain ⟨rfl, rfl⟩ := Prod.mk.inj (Except.ok.inj h)
      exact ⟨.arr (by simp), admits.tail (heq ▸ hinner)⟩
    · obtain ⟨⟨items, after⟩, hread, hreturn⟩ := bind_eq_ok_iff.mp h
      obtain ⟨rfl, rfl⟩ := Prod.mk.inj (Except.ok.inj hreturn)
      obtain ⟨hreadable, hafter⟩ := ih.items hinner hread
      exact ⟨.arr hreadable, hafter⟩
  · have hinner := admits.skipSpace (admits.tail hkind)
    split at h
    · rename_i heq
      obtain ⟨rfl, rfl⟩ := Prod.mk.inj (Except.ok.inj h)
      exact ⟨.obj List.nodup_nil (by simp) (by simp), admits.tail (heq ▸ hinner)⟩
    · obtain ⟨⟨fields, after⟩, hread, hreturn⟩ := bind_eq_ok_iff.mp h
      obtain ⟨rfl, rfl⟩ := Prod.mk.inj (Except.ok.inj hreturn)
      obtain ⟨hallowed, hreadable, hafter⟩ := ih.fields hinner hread
      exact ⟨readable_ofMap_ofList hallowed hreadable, hafter⟩
  · exact ⟨readable_readScalar h, admits.scalar hkind h⟩

theorem items_succ (ih : GivesReadable Kind Allowed fuel) {items : List WideJson}
    (hkind : Kind text) (h : readItems (fuel + 1) levels text = .ok (items, rest)) :
    (∀ item ∈ items, Readable Allowed levels item) ∧ Kind rest := by
  rw [readItems] at h
  obtain ⟨⟨item, after⟩, hread, hnext⟩ := bind_eq_ok_iff.mp h
  obtain ⟨hitem, hafter⟩ := ih.value hkind hread
  have hskipped := admits.skipSpace hafter
  dsimp only at hnext
  split at hnext
  · rename_i heq
    obtain ⟨rfl, rfl⟩ := Prod.mk.inj (Except.ok.inj hnext)
    exact ⟨List.forall_mem_singleton.mpr hitem, admits.tail (heq ▸ hskipped)⟩
  · rename_i heq
    obtain ⟨⟨more, last⟩, hmore, hreturn⟩ := bind_eq_ok_iff.mp hnext
    obtain ⟨rfl, rfl⟩ := Prod.mk.inj (Except.ok.inj hreturn)
    obtain ⟨hothers, hlast⟩ := ih.items (admits.skipSpace (admits.tail (heq ▸ hskipped))) hmore
    exact ⟨List.forall_mem_cons.mpr ⟨hitem, hothers⟩, hlast⟩
  · cases hnext

theorem fields_succ (ih : GivesReadable Kind Allowed fuel)
    {fields : List (WideText × WideJson)} (hkind : Kind text)
    (h : readFields (fuel + 1) levels text = .ok (fields, rest)) :
    (∀ field ∈ fields, Allowed field.1) ∧
      (∀ field ∈ fields, Readable Allowed levels field.2) ∧ Kind rest := by
  rw [readFields.eq_def] at h
  dsimp only at h
  split at h
  · obtain ⟨⟨points, afterName⟩, hstring, hcolon⟩ := bind_eq_ok_iff.mp h
    obtain ⟨hname, hafterName⟩ :=
      admits.string (admits.tail hkind) (orMalformed_eq_ok_iff.mp hstring)
    have hbefore := admits.skipSpace hafterName
    dsimp only at hcolon
    split at hcolon
    · rename_i heq
      obtain ⟨⟨value, after⟩, hread, hnext⟩ := bind_eq_ok_iff.mp hcolon
      obtain ⟨hreadable, hafter⟩ := ih.value (admits.skipSpace (admits.tail (heq ▸ hbefore))) hread
      have hskipped := admits.skipSpace hafter
      dsimp only at hnext
      split at hnext
      · rename_i heq
        obtain ⟨rfl, rfl⟩ := Prod.mk.inj (Except.ok.inj hnext)
        exact ⟨List.forall_mem_singleton.mpr hname, List.forall_mem_singleton.mpr hreadable,
          admits.tail (heq ▸ hskipped)⟩
      · rename_i heq
        obtain ⟨⟨more, last⟩, hmore, hreturn⟩ := bind_eq_ok_iff.mp hnext
        obtain ⟨rfl, rfl⟩ := Prod.mk.inj (Except.ok.inj hreturn)
        obtain ⟨hnames, hothers, hlast⟩ :=
          ih.fields (admits.skipSpace (admits.tail (heq ▸ hskipped))) hmore
        exact ⟨List.forall_mem_cons.mpr ⟨hname, hnames⟩,
          List.forall_mem_cons.mpr ⟨hreadable, hothers⟩, hlast⟩
      · cases hnext
    · cases hcolon
  · cases h

end GivesReadable

include admits

/-- By induction on the fuel of the three readers at once. -/
theorem givesReadable (fuel : Nat) : GivesReadable Kind Allowed fuel := by
  induction fuel with
  | zero => exact givesReadable_zero
  | succ fuel ih => exact ⟨ih.value_succ admits, ih.items_succ admits, ih.fields_succ admits⟩

theorem Admits.readable_of_read {levels : Nat} {text : List CodePoint} {value : WideJson}
    (hkind : Kind text) (h : read levels text = .ok value) : Readable Allowed levels value := by
  obtain ⟨⟨found, after⟩, hread, hend⟩ := bind_eq_ok_iff.mp h
  dsimp only at hend
  split at hend
  · obtain rfl := Except.ok.inj hend
    exact ((givesReadable admits _).value (admits.skipSpace hkind) hread).1
  · exact nomatch hend

end Readers

end Sound

end SnippetCoach.Json
