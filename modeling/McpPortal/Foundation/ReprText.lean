import McpPortal.Foundation.JsonRoundTrip
import Std.Data.String.ToInt

/-!
# Printed strings and tuples, read from the end

`repr` puts a string in quotes and escapes the quote inside, so the quote that
opens it is the last one before the closing quote that no backslash precedes. A
printed tuple of strings at the end of a text is therefore found again, whatever
stands before it.
-/

namespace Foundation

open JsonText

section Characters

variable (isPrintable : Char → Bool)

/-- The character that a text inside quotes starts with, and the rest. -/
def readEscaped : List Char → Option (Char × List Char)
  | '\\' :: 't' :: rest => some ('\t', rest)
  | '\\' :: 'n' :: rest => some ('\n', rest)
  | '\\' :: 'r' :: rest => some ('\r', rest)
  | '\\' :: 'x' :: rest => (readHex 2 0 rest).map fun read => (Char.ofNat read.1, read.2)
  | '\\' :: 'u' :: rest => (readHex 4 0 rest).map fun read => (Char.ofNat read.1, read.2)
  | '\\' :: 'U' :: rest => (readHex 8 0 rest).map fun read => (Char.ofNat read.1, read.2)
  | '\\' :: char :: rest => some (char, rest)
  | char :: rest => some (char, rest)
  | [] => none

def IsQuote (quote : Char) : Prop :=
  quote = '\'' ∨ quote = '"'

theorem readHex_of_lt {width code : Nat} (small : code < 16 ^ width) (rest : List Char) :
    readHex width 0 (hexDigits width code ++ rest) = some (code, rest) := by
  have read := readHex_hexDigits width 0 0 code rest
  rw [Nat.add_zero] at read
  rw [read, readHex, Nat.zero_mul, Nat.zero_add, Nat.mod_eq_of_lt small]

theorem readEscaped_plain {char : Char} (plain : char ≠ '\\') (rest : List Char) :
    readEscaped (char :: rest) = some (char, rest) := by
  unfold readEscaped
  split <;> simp_all

/-- A character inside quotes is read back. -/
theorem readEscaped_reprChar {quote : Char} (isQuote : IsQuote quote) (char : Char)
    (rest : List Char) :
    readEscaped (reprChar isPrintable quote char ++ rest) = some (char, rest) := by
  have width : char.toNat < 16 ^ 8 := by
    have bounded := toNat_lt char
    omega
  unfold reprChar
  split_ifs with escaped tab newline carriage control shown latin basic
  · rw [Bool.or_eq_true, decide_eq_true_eq, decide_eq_true_eq] at escaped
    rcases escaped with rfl | rfl
    · rcases isQuote with rfl | rfl <;> rfl
    · rfl
  · rw [tab]
    rfl
  · rw [newline]
    rfl
  · rw [carriage]
    rfl
  · have small : char.toNat < 16 ^ 2 := by
      simp only [Bool.or_eq_true, decide_eq_true_eq] at control
      omega
    simp only [List.cons_append, readEscaped, readHex_of_lt small, Option.map_some,
      Char.ofNat_toNat]
  · simp only [Bool.or_eq_true, decide_eq_true_eq, not_or] at escaped
    exact readEscaped_plain escaped.2 rest
  · have small : char.toNat < 16 ^ 2 := by omega
    simp only [List.cons_append, readEscaped, readHex_of_lt small, Option.map_some,
      Char.ofNat_toNat]
  · have small : char.toNat < 16 ^ 4 := by omega
    simp only [List.cons_append, readEscaped, readHex_of_lt small, Option.map_some,
      Char.ofNat_toNat]
  · simp only [List.cons_append, readEscaped, readHex_of_lt width, Option.map_some,
      Char.ofNat_toNat]

theorem reprChars_injective {quote : Char} (isQuote : IsQuote quote) :
    Function.Injective fun text : List Char => text.flatMap (reprChar isPrintable quote) := by
  intro first
  induction first with
  | nil =>
      intro second same
      cases second with
      | nil => rfl
      | cons char rest =>
          have read := readEscaped_reprChar isPrintable isQuote char
            (rest.flatMap (reprChar isPrintable quote))
          simp only [List.flatMap_nil, List.flatMap_cons] at same
          rw [← same] at read
          cases read
  | cons char rest ih =>
      intro second same
      have read := readEscaped_reprChar isPrintable isQuote char
        (rest.flatMap (reprChar isPrintable quote))
      simp only [List.flatMap_cons] at same
      rw [same] at read
      cases second with
      | nil => cases read
      | cons other others =>
          rw [List.flatMap_cons, readEscaped_reprChar isPrintable isQuote, Option.some.injEq,
            Prod.mk.injEq] at read
          rw [← read.1, ih read.2.symm]

/-- A backslash stands before every quote of a text. -/
def QuotesEscaped (quote : Char) (text : List Char) : Prop :=
  ∀ before after, text = before ++ quote :: after → before.getLast? = some '\\'

theorem quotesEscaped_of_notMem {quote : Char} {text : List Char} (absent : quote ∉ text) :
    QuotesEscaped quote text := by
  rintro before after rfl
  simp at absent

theorem QuotesEscaped.append {quote : Char} {first second : List Char}
    (firstEscaped : QuotesEscaped quote first) (secondEscaped : QuotesEscaped quote second) :
    QuotesEscaped quote (first ++ second) := by
  intro before after same
  rcases List.append_eq_append_iff.mp same with ⟨middle, inFirst, inSecond⟩ | ⟨middle, inFirst, inSecond⟩
  · have last := secondEscaped middle after inSecond
    rw [inFirst, List.getLast?_append, last]
    rfl
  · cases middle with
    | nil =>
        have last := secondEscaped [] after inSecond.symm
        cases last
    | cons char rest =>
        rw [List.cons_append, List.cons.injEq] at inSecond
        rcases inSecond with ⟨rfl, _⟩
        exact firstEscaped before rest inFirst

theorem notMem_hexDigits {quote : Char} (isQuote : IsQuote quote) (width code : Nat) :
    quote ∉ hexDigits width code := by
  induction width generalizing code with
  | zero => exact List.not_mem_nil
  | succ width ih =>
      rw [hexDigits, List.mem_append, not_or, List.mem_singleton]
      refine ⟨ih _, ?_⟩
      have every : ∀ digit : Fin 16, Nat.digitChar digit ≠ '\'' ∧ Nat.digitChar digit ≠ '"' := by
        decide
      have digit := every ⟨code % 16, Nat.mod_lt _ (by decide)⟩
      rcases isQuote with rfl | rfl
      · exact digit.1.symm
      · exact digit.2.symm

theorem quotesEscaped_reprChar {quote : Char} (isQuote : IsQuote quote) (char : Char) :
    QuotesEscaped quote (reprChar isPrintable quote char) := by
  by_cases same : char = quote
  · subst char
    have escaped : reprChar isPrintable quote quote = ['\\', quote] := by simp [reprChar]
    rw [escaped]
    intro before after split
    match before with
    | [] =>
        rcases isQuote with rfl | rfl <;> cases split
    | [first] =>
        cases split
        rfl
    | _ :: _ :: rest =>
        have length := congrArg List.length split
        simp only [List.length_cons, List.length_nil, List.length_append] at length
        omega
  · apply quotesEscaped_of_notMem
    have digits := notMem_hexDigits isQuote
    have tags : quote ≠ '\\' ∧ quote ≠ 't' ∧ quote ≠ 'n' ∧ quote ≠ 'r' ∧ quote ≠ 'x' ∧
        quote ≠ 'u' ∧ quote ≠ 'U' := by
      rcases isQuote with rfl | rfl <;> decide
    unfold reprChar
    split_ifs <;> simp [Ne.symm same, tags, digits]

theorem quotesEscaped_reprChars {quote : Char} (isQuote : IsQuote quote) (text : List Char) :
    QuotesEscaped quote (text.flatMap (reprChar isPrintable quote)) := by
  induction text with
  | nil => exact quotesEscaped_of_notMem List.not_mem_nil
  | cons char rest ih =>
      rw [List.flatMap_cons]
      exact (quotesEscaped_reprChar isPrintable isQuote char).append ih

/-- Two splits of a list at one value are the same, or one lies before the other. -/
theorem splits_of_append_cons {α : Type} {value : α} {first second firstRest secondRest : List α}
    (same : first ++ value :: firstRest = second ++ value :: secondRest) :
    first = second ∧ firstRest = secondRest ∨
      (∃ middle, second = first ++ value :: middle ∧ firstRest = middle ++ value :: secondRest) ∨
      ∃ middle, first = second ++ value :: middle ∧ secondRest = middle ++ value :: firstRest := by
  rcases List.append_eq_append_iff.mp same with ⟨middle, later, split⟩ | ⟨middle, later, split⟩
  · cases middle with
    | nil =>
        rw [List.nil_append, List.cons.injEq] at split
        rw [List.append_nil] at later
        exact Or.inl ⟨later.symm, split.2⟩
    | cons head middle =>
        rw [List.cons_append, List.cons.injEq] at split
        rcases split with ⟨rfl, inside⟩
        exact Or.inr (Or.inl ⟨middle, later, inside⟩)
  · cases middle with
    | nil =>
        rw [List.nil_append, List.cons.injEq] at split
        rw [List.append_nil] at later
        exact Or.inl ⟨later, split.2.symm⟩
    | cons head middle =>
        rw [List.cons_append, List.cons.injEq] at split
        rcases split with ⟨rfl, inside⟩
        exact Or.inr (Or.inr ⟨middle, later, inside⟩)

/-- The last occurrence of a separator is found again. -/
theorem lastSeparator_unique {α : Type} {separator : α}
    {first second firstText secondText : List α} (firstFree : separator ∉ firstText)
    (secondFree : separator ∉ secondText)
    (same : first ++ separator :: firstText = second ++ separator :: secondText) :
    first = second ∧ firstText = secondText := by
  rcases splits_of_append_cons same with unique | ⟨middle, _, rfl⟩ | ⟨middle, _, rfl⟩
  · exact unique
  · simp at firstFree
  · simp at secondFree

/-- The quote that opens a text is found again from the end. -/
theorem opening_unique {quote : Char} {first second firstText secondText : List Char}
    (firstEscaped : QuotesEscaped quote firstText) (secondEscaped : QuotesEscaped quote secondText)
    (firstOpens : first.getLast? ≠ some '\\') (secondOpens : second.getLast? ≠ some '\\')
    (same : first ++ quote :: firstText = second ++ quote :: secondText) :
    first = second ∧ firstText = secondText := by
  rcases splits_of_append_cons same with unique | ⟨middle, later, inside⟩ | ⟨middle, later, inside⟩
  · exact unique
  · have last := firstEscaped middle secondText inside
    rw [later, List.getLast?_append, List.getLast?_cons, last] at secondOpens
    exact absurd rfl secondOpens
  · have last := secondEscaped middle firstText inside
    rw [later, List.getLast?_append, List.getLast?_cons, last] at firstOpens
    exact absurd rfl firstOpens

end Characters

section Tuples

variable (isPrintable : Char → Bool)

/-- `repr` of a tuple of strings. -/
def reprTuple : List String → String
  | [] => "()"
  | [text] => "(" ++ reprString isPrintable text ++ ",)"
  | texts => "(" ++ joinWith ", " (texts.map (reprString isPrintable)) ++ ")"

example : reprTuple (fun _ => true) ["read", "it's"] = "('read', \"it's\")" := by decide

/-- A printed string is its quote, the escaped text, and its quote. -/
theorem exists_toList_reprString (text : String) :
    ∃ quote, IsQuote quote ∧ (reprString isPrintable text).toList =
      quote :: text.toList.flatMap (reprChar isPrintable quote) ++ [quote] := by
  unfold reprString
  split_ifs with double
  · exact ⟨'"', Or.inr rfl, String.toList_ofList⟩
  · exact ⟨'\'', Or.inl rfl, String.toList_ofList⟩

/-- A printed string at the end of a text is found again. -/
theorem reprString_unique {first second : List Char} {firstText secondText : String}
    (firstOpens : first.getLast? ≠ some '\\') (secondOpens : second.getLast? ≠ some '\\')
    (same : first ++ (reprString isPrintable firstText).toList =
      second ++ (reprString isPrintable secondText).toList) :
    first = second ∧ firstText = secondText := by
  rcases exists_toList_reprString isPrintable firstText with ⟨quote, isQuote, isFirst⟩
  rcases exists_toList_reprString isPrintable secondText with ⟨otherQuote, _, isSecond⟩
  rw [isFirst, isSecond, ← List.append_assoc, ← List.append_assoc] at same
  rcases List.append_inj' same rfl with ⟨opened, sameQuote⟩
  rw [List.cons.injEq] at sameQuote
  rcases sameQuote with ⟨rfl, _⟩
  rcases opening_unique (quotesEscaped_reprChars isPrintable isQuote _)
    (quotesEscaped_reprChars isPrintable isQuote _) firstOpens secondOpens opened with
    ⟨sameStart, sameChars⟩
  have sameText := reprChars_injective isPrintable isQuote sameChars
  exact ⟨sameStart, String.toList_inj.mp sameText⟩

/-- A printed tuple without what closes it. -/
def openTuple : List String → List Char
  | [] => ['(']
  | [text] => '(' :: (reprString isPrintable text).toList
  | text :: rest => '(' :: (joinWith ", " ((text :: rest).map (reprString isPrintable))).toList

/-- What comes before the next string of a tuple. -/
def tupleSeparator (texts : List String) : List Char :=
  if texts.isEmpty then [] else [',', ' ']

def tupleClose (texts : List String) : List Char :=
  if texts.length = 1 then [',', ')'] else [')']

theorem toList_reprTuple (texts : List String) :
    (reprTuple isPrintable texts).toList = openTuple isPrintable texts ++ tupleClose texts := by
  match texts with
  | [] => simp [reprTuple, openTuple, tupleClose]
  | [text] => simp [reprTuple, openTuple, tupleClose]
  | first :: second :: rest => simp [reprTuple, openTuple, tupleClose]

theorem joinWith_append_singleton (sep text : String) {texts : List String} (nonempty : texts ≠ []) :
    joinWith sep (texts ++ [text]) = joinWith sep texts ++ sep ++ text := by
  induction texts with
  | nil => exact absurd rfl nonempty
  | cons first rest ih =>
      cases rest with
      | nil => rfl
      | cons second others =>
          have tail := ih (List.cons_ne_nil _ _)
          simp only [List.cons_append, joinWith] at tail ⊢
          rw [tail]
          simp only [String.append_assoc]

/-- Texts are told apart in what they join to as long as corresponding ones are equally long. -/
theorem joinWith_inj {sep : String} {left right : List String}
    (lengths : List.Forall₂ (fun first second => first.toList.length = second.toList.length)
      left right)
    (joined : joinWith sep left = joinWith sep right) : left = right := by
  induction lengths with
  | nil => rfl
  | @cons first second others rest sameLength restLengths ih =>
      cases restLengths with
      | nil => exact congrArg (fun text => [text]) joined
      | cons =>
          have chars := congrArg String.toList joined
          simp only [joinWith, String.toList_append, List.append_assoc] at chars
          rcases List.append_inj chars sameLength with ⟨first_eq, tail⟩
          have rest_eq := ih (String.toList_inj.mp (List.append_cancel_left tail))
          rw [String.toList_inj.mp first_eq, rest_eq]

theorem openTuple_append (texts : List String) (text : String) :
    openTuple isPrintable (texts ++ [text]) =
      openTuple isPrintable texts ++ tupleSeparator texts ++
        (reprString isPrintable text).toList := by
  match texts with
  | [] => simp [openTuple, tupleSeparator]
  | [first] => simp [openTuple, tupleSeparator, joinWith]
  | first :: second :: rest =>
      have joined := @joinWith_append_singleton ", " (reprString isPrintable text)
        ((first :: second :: rest).map (reprString isPrintable)) (List.cons_ne_nil _ _)
      simp only [List.cons_append, openTuple, List.map_cons, List.map_append, List.map_nil] at joined ⊢
      rw [joined]
      simp [tupleSeparator]

/-- What a printed tuple ends with before it is closed. -/
theorem exists_getLast?_openTuple (texts : List String) :
    ∃ last, (openTuple isPrintable texts).getLast? = some last ∧
      (last = '(' ∧ texts = [] ∨ IsQuote last ∧ texts ≠ []) := by
  rcases List.eq_nil_or_concat texts with rfl | ⟨before, text, rfl⟩
  · exact ⟨'(', rfl, Or.inl ⟨rfl, rfl⟩⟩
  · rcases exists_toList_reprString isPrintable text with ⟨quote, isQuote, printed⟩
    refine ⟨quote, ?_, Or.inr ⟨isQuote, by simp⟩⟩
    rw [List.concat_eq_append, openTuple_append, printed, List.getLast?_append,
      List.getLast?_concat]
    rfl

theorem getLast?_openTuple_separator (before : List Char) (texts : List String) :
    (before ++ (openTuple isPrintable texts ++ tupleSeparator texts)).getLast? =
      if texts = [] then some '(' else some ' ' := by
  cases texts with
  | nil => simp [openTuple, tupleSeparator]
  | cons text rest => simp [tupleSeparator, List.getLast?_append]

/-- The strings of a printed tuple and what comes before it are found again from its end. -/
theorem openTuple_unique {first second : List Char} {firstTexts secondTexts : List String}
    (same : first ++ openTuple isPrintable firstTexts =
      second ++ openTuple isPrintable secondTexts) :
    first = second ∧ firstTexts = secondTexts := by
  induction firstTexts using List.reverseRecOn generalizing secondTexts with
  | nil =>
      rcases List.eq_nil_or_concat secondTexts with rfl | ⟨rest, text, rfl⟩
      · exact ⟨(List.append_inj' same rfl).1, rfl⟩
      · rcases exists_getLast?_openTuple isPrintable (rest.concat text) with ⟨last, isLast, kind⟩
        have ends := congrArg List.getLast? same
        rw [List.getLast?_append, List.getLast?_append, isLast] at ends
        cases ends
        rcases kind with ⟨_, empty⟩ | ⟨isQuote, _⟩
        · simp at empty
        · rcases isQuote with isQuote | isQuote <;> cases isQuote
  | append_singleton before text ih =>
      rcases List.eq_nil_or_concat secondTexts with rfl | ⟨rest, other, rfl⟩
      · rcases exists_getLast?_openTuple isPrintable (before ++ [text]) with ⟨last, isLast, kind⟩
        have ends := congrArg List.getLast? same
        rw [List.getLast?_append, List.getLast?_append, isLast] at ends
        cases ends
        rcases kind with ⟨_, empty⟩ | ⟨isQuote, _⟩
        · simp at empty
        · rcases isQuote with isQuote | isQuote <;> cases isQuote
      · rw [List.concat_eq_append, openTuple_append, openTuple_append, ← List.append_assoc,
          ← List.append_assoc second] at same
        have opens (start : List Char) (texts : List String) :
            (start ++ (openTuple isPrintable texts ++ tupleSeparator texts)).getLast? ≠
              some '\\' := by
          rw [getLast?_openTuple_separator]
          split <;> decide
        rcases reprString_unique isPrintable (opens _ _) (opens _ _) same with ⟨sameStart, rfl⟩
        have ends := congrArg List.getLast? sameStart
        rw [getLast?_openTuple_separator, getLast?_openTuple_separator] at ends
        have sameSeparator : tupleSeparator before = tupleSeparator rest := by
          cases before <;> cases rest <;> first | rfl | cases ends
        rw [sameSeparator, ← List.append_assoc, ← List.append_assoc] at sameStart
        rcases ih (List.append_cancel_right sameStart) with ⟨rfl, rfl⟩
        exact ⟨rfl, List.concat_eq_append.symm⟩

theorem reprTuple_unique {first second : List Char} {firstTexts secondTexts : List String}
    (same : first ++ (reprTuple isPrintable firstTexts).toList =
      second ++ (reprTuple isPrintable secondTexts).toList) :
    first = second ∧ firstTexts = secondTexts := by
  have comma (start : List Char) (texts : List String) :
      (start ++ openTuple isPrintable texts).getLast? ≠ some ',' := by
    rcases exists_getLast?_openTuple isPrintable texts with ⟨last, isLast, kind⟩
    rw [List.getLast?_append, isLast, Option.some_or, Ne, Option.some.injEq]
    rcases kind with ⟨rfl, _⟩ | ⟨isQuote, _⟩
    · decide
    · rcases isQuote with rfl | rfl <;> decide
  rw [toList_reprTuple, toList_reprTuple, ← List.append_assoc, ← List.append_assoc] at same
  unfold tupleClose at same
  split_ifs at same with firstOne secondOne secondOne
  · exact openTuple_unique isPrintable (List.append_cancel_right same)
  · rw [← List.singleton_append, ← List.append_assoc] at same
    have ends := congrArg List.getLast? (List.append_cancel_right same)
    rw [List.getLast?_concat] at ends
    exact absurd ends.symm (comma _ _)
  · rw [← @List.singleton_append _ ',' [')'], ← List.append_assoc] at same
    have ends := congrArg List.getLast? (List.append_cancel_right same)
    rw [List.getLast?_concat] at ends
    exact absurd ends (comma _ _)
  · exact openTuple_unique isPrintable (List.append_cancel_right same)

end Tuples

end Foundation
