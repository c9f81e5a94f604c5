import ScriptAssist.Proofs.Json.Scalars

/-!
# Printed values

A value that is printed is read back, with the members of its objects in order (`parse_render`).
This holds for the values that a reader can hold on to: whole numbers fit in 64 bits, there are no
doubles among the numbers, and brackets are not nested too deeply. Each reader is shown to take
exactly the text that was printed and to leave what follows, by induction on the value; two steps
for each character printed are more than enough.
-/

namespace ScriptAssist.Json

namespace Value

mutual

/-- The value with the members of all objects in order. Of two members with one key the later one
is kept. -/
def sorted : Value → Value
  | null => .null
  | bool b => .bool b
  | number n => .number n
  | text s => .text s
  | array items => .array (sortedItems items)
  | object members => .object (insertAll [] members)

/-- The items, each with its members in order. -/
def sortedItems : List Value → List Value
  | [] => []
  | v :: rest => v.sorted :: sortedItems rest

/-- The members before, with more of them put in their places. -/
def insertAll (before : List (String × Value)) : List (String × Value) → List (String × Value)
  | [] => before
  | (key, v) :: rest => insertAll (insert key v.sorted before) rest

end

/-- Values that are read back as they were printed. The depth bounds how many brackets are opened
inside one another. -/
inductive Printable : (depth : Nat) → Value → Prop
  | null {depth : Nat} : Printable depth .null
  | bool {depth : Nat} (b : Bool) : Printable depth (.bool b)
  | int {depth : Nat} {n : Int} (hlow : -0x8000000000000000 ≤ n) (hhigh : n < 0x10000000000000000) :
      Printable depth (.number (.int n))
  | text {depth : Nat} (s : String) : Printable depth (.text s)
  | array {depth : Nat} {items : List Value} (hitems : ∀ v ∈ items, Printable depth v) :
      Printable (depth + 1) (.array items)
  | object {depth : Nat} {members : List (String × Value)}
      (hmembers : ∀ entry ∈ members, Printable depth entry.2) :
      Printable (depth + 1) (.object members)

theorem printable_object_iff {depth : Nat} {members : List (String × Value)} :
    Printable (depth + 1) (.object members) ↔ ∀ entry ∈ members, Printable depth entry.2 := by
  refine ⟨fun h => ?_, .object⟩
  cases h with
  | object hmembers => exact hmembers

/-! ## The text of a value -/

/-- The characters of a value's text. -/
def chars (v : Value) : List Char :=
  v.render.toList

/-- The characters of a member. -/
def memberChars (entry : String × Value) : List Char :=
  '"' :: textBody entry.1 ++ ':' :: entry.2.chars

/-- Items behind the first one. -/
def moreItems (items : List Value) : List Char :=
  items.flatMap fun v => ',' :: v.chars

/-- Members behind the first one. -/
def moreMembers (members : List (String × Value)) : List Char :=
  members.flatMap fun entry => ',' :: memberChars entry

theorem toList_renderItems (v : Value) (rest : List Value) :
    (renderItems (v :: rest)).toList = v.chars ++ moreItems rest := by
  induction rest generalizing v with
  | nil => simp [renderItems, moreItems, chars]
  | cons w rest ih =>
    rw [renderItems, String.toList_append, String.toList_append, ih w]
    · simp [moreItems, chars]
    · exact List.cons_ne_nil w rest

theorem toList_renderMembers (entry : String × Value) (rest : List (String × Value)) :
    (renderMembers (entry :: rest)).toList = memberChars entry ++ moreMembers rest := by
  induction rest generalizing entry with
  | nil =>
    obtain ⟨key, v⟩ := entry
    simp [renderMembers, moreMembers, memberChars, chars, toList_renderText]
  | cons other rest ih =>
    obtain ⟨key, v⟩ := entry
    rw [renderMembers]
    · simp [ih other, moreMembers, memberChars, chars, toList_renderText]
    · exact List.cons_ne_nil other rest

theorem chars_text (s : String) : (Value.text s).chars = '"' :: textBody s := by
  rw [chars, render, toList_renderText]

theorem chars_int_ofNat (n : Nat) : (Value.number (.int n)).chars = Nat.toDigits 10 n := by
  show (toString (n : Int)).toList = _
  rw [← Nat.toList_repr]
  rfl

theorem chars_int_negSucc (n : Nat) :
    (Value.number (.int (Int.negSucc n))).chars = '-' :: Nat.toDigits 10 (n + 1) := by
  show (toString (Int.negSucc n)).toList = _
  rw [← Nat.toList_repr]
  show ("-" ++ (n + 1).repr).toList = _
  rw [String.toList_append]
  rfl

theorem chars_array (items : List Value) :
    (Value.array items).chars = '[' :: ((renderItems items).toList ++ [']']) := by
  simp [chars, render]

theorem chars_object (members : List (String × Value)) :
    (Value.object members).chars = '{' :: ((renderMembers members).toList ++ ['}']) := by
  simp [chars, render]

/-- A value's text begins with neither a space nor a bracket that closes. -/
theorem Printable.exists_chars {depth : Nat} {v : Value} (h : Printable depth v) :
    ∃ c rest, v.chars = c :: rest ∧ isSpace c = false ∧ c ≠ ']' := by
  cases h with
  | null => exact ⟨'n', _, rfl, by decide, by decide⟩
  | bool b => cases b <;> exact ⟨_, _, rfl, by decide, by decide⟩
  | @int _ n =>
    cases n with
    | ofNat n =>
      have hdigit : ∀ c ∈ Nat.toDigits 10 n, c.isDigit = true :=
        fun _ hc => Nat.isDigit_of_mem_toDigits (by decide) (by decide) hc
      obtain ⟨c, rest, hs⟩ := List.exists_cons_of_ne_nil (Nat.toDigits_ne_nil (b := 10) (n := n))
      have hc := hdigit c (by rw [hs]; simp)
      refine ⟨c, rest, (chars_int_ofNat n).trans hs, ?_, ?_⟩
      · rw [Bool.eq_false_iff]
        intro hspace
        simp only [isSpace, Bool.or_eq_true, decide_eq_true_eq] at hspace
        rcases hspace with ((rfl | rfl) | rfl) | rfl <;> revert hc <;> decide
      · rintro rfl
        revert hc
        decide
    | negSucc n => exact ⟨'-', _, chars_int_negSucc n, by decide, by decide⟩
  | text s => exact ⟨'"', _, chars_text s, by decide, by decide⟩
  | array => exact ⟨'[', _, chars_array _, by decide, by decide⟩
  | object => exact ⟨'{', _, chars_object _, by decide, by decide⟩

end Value

/-! ## Readers -/

open Value

/-- The value is read from its text, and what follows is left. -/
def Reads (depth : Nat) (v : Value) : Prop :=
  ∀ (fuel : Nat) (rest : List Char) (index : Nat), 2 * v.chars.length ≤ fuel → Follows rest →
    ∃ index', readValue fuel (depth + 1) ⟨v.chars ++ rest, index⟩ = .ok (v.sorted, ⟨rest, index'⟩)

theorem skipSpaces_cons {c : Char} (hc : isSpace c = false) (rest : List Char) (index : Nat) :
    (Cursor.mk (c :: rest) index).skipSpaces = ⟨c :: rest, index⟩ := by
  simp [Cursor.skipSpaces, Cursor.skipFrom, hc]

/-- A minus sign begins a number. -/
theorem readValue_minus (fuel depth index : Nat) (rest : List Char) :
    readValue (fuel + 1) depth ⟨'-' :: rest, index⟩ =
      yielding (readNumber true ⟨rest, index + '-'.utf8Size⟩) .number := rfl

/-- A quote begins a text. -/
theorem readValue_quote (fuel depth index : Nat) (rest : List Char) :
    readValue (fuel + 1) depth ⟨'"' :: rest, index⟩ =
      yielding (readText ⟨rest, index + '"'.utf8Size⟩) .text := rfl

/-- A digit begins a number. -/
theorem readValue_digit {c : Char} (hc : c.isDigit = true) (fuel depth index : Nat)
    (rest : List Char) :
    readValue (fuel + 1) depth ⟨c :: rest, index⟩ =
      yielding (readNumber false ⟨c :: rest, index⟩) .number := by
  have hne : ∀ d : Char, d.isDigit = false → c ≠ d := by
    rintro d hd rfl
    rw [hd] at hc
    cases hc
  have hspace : isSpace c = false := by
    simp [isSpace, hne ' ' (by decide), hne '\n' (by decide), hne '\t' (by decide),
      hne '\r' (by decide)]
  rw [readValue, skipSpaces_cons hspace]
  simp only [if_neg (hne 'n' (by decide)), if_neg (hne 't' (by decide)),
    if_neg (hne 'f' (by decide)), if_neg (hne '-' (by decide)), hc, if_true]

theorem reads_int {n : Int} (hlow : -0x8000000000000000 ≤ n) (hhigh : n < 0x10000000000000000)
    (depth : Nat) : Reads depth (.number (.int n)) := by
  intro fuel rest index hfuel hrest
  cases n with
  | ofNat n =>
    have hn : n < UInt64.size := by
      have hhigh' : (n : Int) < 0x10000000000000000 := hhigh
      show n < 0x10000000000000000
      omega
    obtain ⟨index', h⟩ := readNumber_toDigits false hn hrest index
    obtain ⟨c, s, hs⟩ := List.exists_cons_of_ne_nil (Nat.toDigits_ne_nil (b := 10) (n := n))
    have hc : c.isDigit = true :=
      Nat.isDigit_of_mem_toDigits (b := 10) (n := n) (by decide) (by decide) (by rw [hs]; simp)
    rw [show (Value.number (.int (Int.ofNat n))).chars = Nat.toDigits 10 n from chars_int_ofNat n,
      hs] at hfuel ⊢
    obtain ⟨fuel, rfl⟩ := Nat.exists_eq_succ_of_ne_zero (n := fuel) (by simp at hfuel; omega)
    refine ⟨index', ?_⟩
    rw [List.cons_append, readValue_digit hc, ← List.cons_append, ← hs, h]
    rfl
  | negSucc n =>
    have hn : n + 1 ≤ maxNegative := by
      have hlow' : -0x8000000000000000 ≤ -((n : Int) + 1) := Int.negSucc_eq n ▸ hlow
      show n + 1 ≤ 0x8000000000000000
      omega
    have hsize : n + 1 < UInt64.size := Nat.lt_of_le_of_lt hn (by decide)
    obtain ⟨index', h⟩ := readNumber_toDigits true hsize hrest (index + '-'.utf8Size)
    rw [chars_int_negSucc] at hfuel ⊢
    obtain ⟨fuel, rfl⟩ := Nat.exists_eq_succ_of_ne_zero (n := fuel) (by simp at hfuel; omega)
    have hwhole : wholeNumber true (n + 1) = .int (Int.negSucc n) := by
      simp only [wholeNumber, Bool.not_true, Bool.false_eq_true, if_false]
      rw [if_neg (by omega)]
      rfl
    refine ⟨index', ?_⟩
    rw [List.cons_append, readValue_minus, h, hwhole]
    rfl

theorem reads_text (s : String) (depth : Nat) : Reads depth (.text s) := by
  intro fuel rest index hfuel hrest
  rw [chars_text] at hfuel ⊢
  obtain ⟨fuel, rfl⟩ := Nat.exists_eq_succ_of_ne_zero (n := fuel) (by simp at hfuel; omega)
  obtain ⟨index', h⟩ := readText_textBody s rest (index + '"'.utf8Size)
  refine ⟨index', ?_⟩
  rw [List.cons_append, readValue_quote, h]
  rfl

/-! ## Items and members -/

theorem nextItem_first {c : Char} (hspace : isSpace c = false) (hne : c ≠ ']') (rest : List Char)
    (index : Nat) :
    nextItem true ⟨c :: rest, index⟩ = .ok (some ⟨c :: rest, index⟩) := by
  rw [nextItem, skipSpaces_cons hspace]
  simp only [if_neg hne, if_true]

theorem nextItem_comma {c : Char} (hspace : isSpace c = false) (hne : c ≠ ']') (rest : List Char)
    (index : Nat) :
    nextItem false ⟨',' :: c :: rest, index⟩ = .ok (some ⟨c :: rest, index + ','.utf8Size⟩) := by
  have hnext : (Cursor.mk (',' :: c :: rest) index).next = ⟨c :: rest, index + ','.utf8Size⟩ := rfl
  rw [nextItem, skipSpaces_cons (by decide)]
  simp only [hnext, skipSpaces_cons hspace, if_neg hne, Char.reduceEq, Bool.false_eq_true, if_false,
    if_true]

theorem nextKey_first (rest : List Char) (index : Nat) :
    nextKey true ⟨'"' :: rest, index⟩ = .ok (some ⟨rest, index + '"'.utf8Size⟩) := rfl

theorem nextKey_comma (rest : List Char) (index : Nat) :
    nextKey false ⟨',' :: '"' :: rest, index⟩ =
      .ok (some ⟨rest, index + ','.utf8Size + '"'.utf8Size⟩) := rfl

theorem follows_moreItems (items : List Value) (rest : List Char) :
    Follows (moreItems items ++ ']' :: rest) := by
  cases items with
  | nil => exact .bracket rest
  | cons v items => exact .comma _

theorem follows_moreMembers (members : List (String × Value)) (rest : List Char) :
    Follows (moreMembers members ++ '}' :: rest) := by
  cases members with
  | nil => exact .brace rest
  | cons entry members => exact .comma _

/-- The items behind others are read up to the bracket. -/
theorem readItems_moreItems {depth : Nat} {items : List Value}
    (hitems : ∀ v ∈ items, Printable depth v ∧ Reads depth v) (before : List Value)
    (rest : List Char) (fuel index : Nat) (hfuel : 2 * (moreItems items).length < fuel) :
    ∃ index', readItems fuel (depth + 1) false before ⟨moreItems items ++ ']' :: rest, index⟩ =
      .ok (.array (before.reverse ++ sortedItems items), ⟨rest, index'⟩) := by
  induction items generalizing fuel before index with
  | nil =>
    obtain ⟨fuel, rfl⟩ := Nat.exists_eq_succ_of_ne_zero (Nat.ne_zero_of_lt hfuel)
    exact ⟨_, by rw [sortedItems, List.append_nil]; rfl⟩
  | cons v items ih =>
    obtain ⟨fuel, rfl⟩ := Nat.exists_eq_succ_of_ne_zero (Nat.ne_zero_of_lt hfuel)
    obtain ⟨hprintable, hreads⟩ := hitems v (by simp)
    have hmore : moreItems (v :: items) = ',' :: v.chars ++ moreItems items := rfl
    obtain ⟨c, s, hs, hspace, hne⟩ := hprintable.exists_chars
    rw [hmore] at hfuel ⊢
    simp only [List.length_append, List.length_cons] at hfuel
    obtain ⟨next, hv⟩ := hreads fuel _ (index + ','.utf8Size) (by omega)
      (follows_moreItems items rest)
    obtain ⟨index', h⟩ := ih (fun w hw => hitems w (by simp [hw])) (v.sorted :: before) fuel next
      (by omega)
    refine ⟨index', ?_⟩
    -- Behind the comma the item begins at once, since no value begins with a space.
    have hitem : nextItem false ⟨',' :: v.chars ++ moreItems items ++ ']' :: rest, index⟩ =
        .ok (some ⟨v.chars ++ (moreItems items ++ ']' :: rest), index + ','.utf8Size⟩) := by
      rw [hs, List.append_assoc]
      exact nextItem_comma hspace hne _ index
    rw [readItems, hitem]
    simp only [hv, h, sortedItems, List.reverse_cons, List.append_assoc, List.singleton_append]

/-- A member is read into its place. -/
theorem readMembers_member {depth : Nat} {entry : String × Value} (hreads : Reads depth entry.2)
    {fuel : Nat} (hfuel : 2 * entry.2.chars.length ≤ fuel) {first : Bool} {c : Cursor}
    {rest : List Char} (hrest : Follows rest) {index : Nat}
    (hkey : nextKey first c =
      .ok (some ⟨textBody entry.1 ++ ':' :: (entry.2.chars ++ rest), index⟩))
    (before : List (String × Value)) :
    ∃ index', readMembers (fuel + 1) (depth + 1) first before c =
      readMembers fuel (depth + 1) false (insert entry.1 entry.2.sorted before) ⟨rest, index'⟩ := by
  obtain ⟨colon, hname⟩ := readText_textBody entry.1 (':' :: (entry.2.chars ++ rest)) index
  have hcolon : readColon ⟨':' :: (entry.2.chars ++ rest), colon⟩ =
      .ok ⟨entry.2.chars ++ rest, colon + ':'.utf8Size⟩ := rfl
  obtain ⟨index', hv⟩ := hreads fuel rest (colon + ':'.utf8Size) hfuel hrest
  refine ⟨index', ?_⟩
  rw [readMembers, hkey]
  simp only [hname, hcolon, hv]

/-- The members behind others are read up to the brace. -/
theorem readMembers_moreMembers {depth : Nat} {members : List (String × Value)}
    (hmembers : ∀ entry ∈ members, Reads depth entry.2) (before : List (String × Value))
    (rest : List Char) (fuel index : Nat) (hfuel : 2 * (moreMembers members).length < fuel) :
    ∃ index',
      readMembers fuel (depth + 1) false before ⟨moreMembers members ++ '}' :: rest, index⟩ =
        .ok (.object (insertAll before members), ⟨rest, index'⟩) := by
  induction members generalizing fuel before index with
  | nil =>
    obtain ⟨fuel, rfl⟩ := Nat.exists_eq_succ_of_ne_zero (Nat.ne_zero_of_lt hfuel)
    exact ⟨_, rfl⟩
  | cons entry members ih =>
    obtain ⟨fuel, rfl⟩ := Nat.exists_eq_succ_of_ne_zero (Nat.ne_zero_of_lt hfuel)
    have hmore : moreMembers (entry :: members) =
        ',' :: memberChars entry ++ moreMembers members := rfl
    rw [hmore] at hfuel ⊢
    simp only [memberChars, List.length_append, List.length_cons] at hfuel
    have hlength : 2 * entry.2.chars.length ≤ fuel := by omega
    have hkey : nextKey false
        ⟨',' :: memberChars entry ++ moreMembers members ++ '}' :: rest, index⟩ =
        .ok (some ⟨textBody entry.1 ++ ':' :: (entry.2.chars ++
          (moreMembers members ++ '}' :: rest)), index + ','.utf8Size + '"'.utf8Size⟩) := by
      simp only [memberChars, List.cons_append, List.append_assoc]
      exact nextKey_comma _ index
    obtain ⟨next, hentry⟩ := readMembers_member (hmembers entry (by simp)) hlength
      (follows_moreMembers members rest) hkey before
    obtain ⟨index', h⟩ := ih (fun other hother => hmembers other (by simp [hother]))
      (insert entry.1 entry.2.sorted before) fuel next (by omega)
    exact ⟨index', hentry.trans h⟩

/-! ## Values -/

theorem reads_array {depth : Nat} {items : List Value}
    (hitems : ∀ v ∈ items, Printable depth v ∧ Reads depth v) :
    Reads (depth + 1) (.array items) := by
  intro fuel rest index hfuel hrest
  have hopen : ∀ fuel s, readValue (fuel + 1) (depth + 2) ⟨'[' :: s, index⟩ =
      readItems fuel (depth + 1) true [] ⟨s, index + '['.utf8Size⟩ := fun _ _ => rfl
  rw [chars_array] at hfuel ⊢
  obtain ⟨fuel, rfl⟩ := Nat.exists_eq_succ_of_ne_zero (n := fuel) (by simp at hfuel; omega)
  rw [List.cons_append, hopen, List.append_assoc, List.singleton_append]
  -- The bracket has taken one step, and the first item takes another.
  obtain ⟨fuel, rfl⟩ := Nat.exists_eq_succ_of_ne_zero (n := fuel) (by simp at hfuel; omega)
  cases items with
  | nil => exact ⟨_, rfl⟩
  | cons v items =>
    obtain ⟨hprintable, hreads⟩ := hitems v (by simp)
    obtain ⟨c, s, hs, hspace, hne⟩ := hprintable.exists_chars
    rw [toList_renderItems] at hfuel ⊢
    simp only [List.length_append, List.length_cons, List.length_nil] at hfuel
    obtain ⟨next, hv⟩ := hreads fuel _ (index + '['.utf8Size) (by omega)
      (follows_moreItems items rest)
    have hmore : ∀ w ∈ items, Printable depth w ∧ Reads depth w :=
      fun w hw => hitems w (by simp [hw])
    obtain ⟨index', h⟩ := readItems_moreItems hmore [v.sorted] rest fuel next (by omega)
    have hitem : nextItem true ⟨v.chars ++ moreItems items ++ ']' :: rest, index + '['.utf8Size⟩ =
        .ok (some ⟨v.chars ++ (moreItems items ++ ']' :: rest), index + '['.utf8Size⟩) := by
      rw [hs, List.append_assoc]
      exact nextItem_first hspace hne _ _
    refine ⟨index', ?_⟩
    rw [readItems, hitem]
    simp only [hv, h, List.reverse_singleton, List.singleton_append]
    rfl

theorem reads_object {depth : Nat} {members : List (String × Value)}
    (hmembers : ∀ entry ∈ members, Reads depth entry.2) :
    Reads (depth + 1) (.object members) := by
  intro fuel rest index hfuel hrest
  have hopen : ∀ fuel s, readValue (fuel + 1) (depth + 2) ⟨'{' :: s, index⟩ =
      readMembers fuel (depth + 1) true [] ⟨s, index + '{'.utf8Size⟩ := fun _ _ => rfl
  rw [chars_object] at hfuel ⊢
  obtain ⟨fuel, rfl⟩ := Nat.exists_eq_succ_of_ne_zero (n := fuel) (by simp at hfuel; omega)
  rw [List.cons_append, hopen, List.append_assoc, List.singleton_append]
  obtain ⟨fuel, rfl⟩ := Nat.exists_eq_succ_of_ne_zero (n := fuel) (by simp at hfuel; omega)
  cases members with
  | nil => exact ⟨_, rfl⟩
  | cons entry members =>
    rw [toList_renderMembers] at hfuel ⊢
    simp only [memberChars, List.length_append, List.length_cons, List.length_nil] at hfuel
    have hlength : 2 * entry.2.chars.length ≤ fuel := by omega
    have hkey : nextKey true
        ⟨memberChars entry ++ moreMembers members ++ '}' :: rest, index + '{'.utf8Size⟩ =
        .ok (some ⟨textBody entry.1 ++ ':' :: (entry.2.chars ++
          (moreMembers members ++ '}' :: rest)), index + '{'.utf8Size + '"'.utf8Size⟩) := by
      simp only [memberChars, List.cons_append, List.append_assoc]
      exact nextKey_first _ _
    obtain ⟨next, hentry⟩ := readMembers_member (hmembers entry (by simp)) hlength
      (follows_moreMembers members rest) hkey []
    have hmore : ∀ other ∈ members, Reads depth other.2 :=
      fun other hother => hmembers other (by simp [hother])
    obtain ⟨index', h⟩ := readMembers_moreMembers hmore (insert entry.1 entry.2.sorted []) rest fuel
      next (by omega)
    exact ⟨index', hentry.trans h⟩

/-- Every printable value is read from its text. -/
theorem Value.Printable.reads {depth : Nat} {v : Value} (h : Printable depth v) :
    Reads depth v := by
  induction h with
  | null =>
    intro fuel rest index hfuel hrest
    obtain ⟨fuel, rfl⟩ := Nat.exists_eq_succ_of_ne_zero (Nat.ne_zero_of_lt hfuel)
    exact ⟨_, rfl⟩
  | bool b =>
    intro fuel rest index hfuel hrest
    cases b <;>
    · obtain ⟨fuel, rfl⟩ := Nat.exists_eq_succ_of_ne_zero (Nat.ne_zero_of_lt hfuel)
      exact ⟨_, rfl⟩
  | int hlow hhigh => exact reads_int hlow hhigh _
  | text s => exact reads_text s _
  | array hitems ih => exact reads_array fun v hv => ⟨hitems v hv, ih v hv⟩
  | object hmembers ih => exact reads_object ih

/-- A value that is printed is read back, with the members of its objects in order. -/
theorem parse_render {v : Value} (h : Value.Printable (maxDepth - 1) v) :
    Value.parse v.render = .ok v.sorted := by
  have hfuel : 2 * v.chars.length ≤ (Cursor.start v.render.toList).fuel := by
    show 2 * v.render.toList.length ≤ 2 * v.render.toList.length + 4
    omega
  obtain ⟨index', hread⟩ := h.reads _ [] 0 hfuel .nothing
  rw [List.append_nil] at hread
  unfold Value.parse Value.parseWithin readWhole
  have hstart : readValue (Cursor.start v.render.toList).fuel maxDepth (.start v.render.toList) =
      .ok (v.sorted, ⟨[], index'⟩) := hread
  simp only [hstart]
  rfl

end ScriptAssist.Json
