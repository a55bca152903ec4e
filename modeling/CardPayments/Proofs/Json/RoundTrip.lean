import CardPayments.Json.Record
import CardPayments.Proofs.Text.Digits

/-! # Written values read back

The reader gives back every value that was written: it is led through the text piece by piece, and
what stands behind a value does not matter as long as it ends a bare word.  Values are as records
write them, with whole numbers only. -/
set_option autoImplicit false

namespace CardPayments

namespace Numeral

theorem ofNat_toList (n : Nat) : (ofNat n).toList = Text.digits n := by
  simp [ofNat, toList]

theorem ofList?_digits (n : Nat) : ofList? (Text.digits n) = some (ofNat n) := by
  have all := Text.isDigit_digits n
  have unsigned : readUnsigned false (Text.digits n) = some (ofNat n) := by
    rw [readUnsigned, Text.takeWhile_isDigit all, Text.dropWhile_isDigit all]
    cases written : Text.digits n with
    | nil => exact absurd written (Text.digits_ne_nil n)
    | cons first more =>
        have proper : ¬ (first = '0' ∧ more ≠ []) := by
          rintro ⟨rfl, longer⟩
          by_cases zero : n = 0
          · rw [zero] at written
            cases written
            exact longer rfl
          · exact Text.head?_digits zero (by rw [written]; rfl)
        simp only [if_neg proper, readEnd, ofNat, written]
  rw [ofList?.eq_def]
  split
  · next rest written =>
      have minus := all '-' (by rw [written]; exact List.mem_cons_self)
      exact absurd minus (by decide)
  · exact unsigned

theorem integer?_ofNat (n : Nat) : (ofNat n).integer? = some n := by
  rw [integer?, if_pos ⟨rfl, rfl⟩]
  exact Text.number?_digits n

end Numeral

namespace Json

mutual

/-- Every part can be read back; numbers are whole. -/
def Plain : Json → Prop
  | .number n => ∃ m, n = .ofNat m
  | .unreadable => False
  | .array items => AllPlain items
  | .object fields => FieldsPlain fields
  | _ => True

def AllPlain : List Json → Prop
  | [] => True
  | item :: rest => item.Plain ∧ AllPlain rest

def FieldsPlain : List (String × Json) → Prop
  | [] => True
  | (_, value) :: rest => value.Plain ∧ FieldsPlain rest

end

/-! ## Pieces of a text -/

/-- What a text gives when it is read to its end from here. -/
def Reading.result (r : Reading) (s : List Char) : Option Json := (r.run s).bind Reading.finish

/-- What a text gives when it is read from between two tokens, unless the parser refused before. -/
def Parsing.resume (p : Option Parsing) (s : List Char) : Option Json :=
  p.bind fun p => Reading.result ⟨.between, p⟩ s

/-- A bare word that stands in front ends here. -/
def Ends (s : List Char) : Prop := ∀ c ∈ s.head?, isBare c = false

theorem ends_nil : Ends [] := nofun

theorem ends_cons {c : Char} {s : List Char} (mark : isBare c = false) : Ends (c :: s) := by
  intro d head
  cases head
  exact mark

namespace Reading

variable {p : Parsing}

theorem result_cons (r : Reading) (c : Char) (s : List Char) :
    r.result (c :: s) = (r.step c).bind fun next => next.result s := by
  rw [result, run]
  cases r.step c with
  | none => rfl
  | some next => rfl

theorem result_mark (token : Token) {c : Char}
    (lexed : lexBetween c = some ([token], .between)) (s : List Char) :
    result ⟨.between, p⟩ (c :: s) = Parsing.resume (p.step token) s := by
  rw [result_cons]
  simp only [step, lexChar, lexed, Parsing.steps, Parsing.resume]
  cases p.step token with
  | none => rfl
  | some next => rfl

/-! ### Bare words -/

theorem result_sofar {w : List Char} (bare : w.all isBare = true) (sofar s : List Char) :
    result ⟨.bare sofar, p⟩ (w ++ s) = result ⟨.bare (w.reverse ++ sofar), p⟩ s := by
  induction w generalizing sofar with
  | nil => rfl
  | cons c rest ih =>
      rw [List.all_cons, Bool.and_eq_true] at bare
      have others := ih bare.2 (c :: sofar)
      rw [List.cons_append, result_cons]
      simp only [step, lexChar, bare.1, if_true, Parsing.steps, Option.bind_some, others]
      simp

theorem result_word {token : Token} {w s : List Char} (word : Token.ofBare? w = some token)
    (ends : Ends s) :
    result ⟨.bare w.reverse, p⟩ s = Parsing.resume (p.step token) s := by
  cases s with
  | nil =>
      simp only [result, run, Option.bind_some, finish, lexEnd, List.reverse_reverse, word,
        Option.map_some, Parsing.steps, Parsing.resume]
      cases p.step token with
      | none => rfl
      | some next => rfl
  | cons c rest =>
      -- the character behind the word ends it, and is then read as if nothing stood in front
      have mark := ends c rfl
      rw [result_cons]
      simp only [step, lexChar, mark, Bool.false_eq_true, if_false, List.reverse_reverse, word,
        Parsing.resume]
      cases lexed : lexBetween c with
      | none => cases p.step token <;> simp [result_cons, step, lexChar, lexed]
      | some found =>
          cases stepped : p.step token with
          | none => simp [Parsing.steps, stepped]
          | some next =>
              simp only [Parsing.steps, stepped, Option.bind_some, result_cons, step, lexChar,
                lexed]

theorem result_bare (token : Token) {c : Char} {w s : List Char}
    (starts : lexBetween c = some ([], .bare [c]))
    (bare : w.all isBare = true) (word : Token.ofBare? (c :: w) = some token)
    (ends : Ends s) :
    result ⟨.between, p⟩ (c :: w ++ s) = Parsing.resume (p.step token) s := by
  rw [List.cons_append, result_cons]
  simp only [step, lexChar, starts, Parsing.steps, Option.bind_some]
  rw [result_sofar bare, show w.reverse ++ [c] = (c :: w).reverse by simp, result_word word ends]

theorem isBare_of_isDigit {c : Char} (digit : Text.isDigit c = true) : isBare c = true := by
  simp [isBare, digit]

theorem result_digits (n : Nat) {s : List Char} (ends : Ends s) :
    result ⟨.between, p⟩ (Text.digits n ++ s) =
      Parsing.resume (p.step (.number (.ofNat n))) s := by
  have all := Text.isDigit_digits n
  have number := Numeral.ofList?_digits n
  cases written : Text.digits n with
  | nil => exact absurd written (Text.digits_ne_nil n)
  | cons c w =>
      rw [written] at all number
      have first := all c List.mem_cons_self
      have notLetter : c ≠ 'n' ∧ c ≠ 't' ∧ c ≠ 'f' ∧ c ≠ '"' := by
        refine ⟨?_, ?_, ?_, ?_⟩ <;> (rintro rfl; exact absurd first (by decide))
      have notBlank : isBlank c = false := by
        rw [isBlank]
        simp only [Bool.or_eq_false_iff, beq_eq_false_iff_ne]
        refine ⟨⟨⟨?_, ?_⟩, ?_⟩, ?_⟩ <;> (rintro rfl; exact absurd first (by decide))
      have word : Token.ofBare? (c :: w) = some (.number (.ofNat n)) := by
        simp [Token.ofBare?, number, notLetter.1, notLetter.2.1, notLetter.2.2.1]
      have starts : lexBetween c = some ([], .bare [c]) := by
        simp [lexBetween, notBlank, notLetter.2.2.2, isBare_of_isDigit first]
      have bare : w.all isBare = true :=
        List.all_eq_true.mpr fun d member =>
          isBare_of_isDigit (all d (List.mem_cons_of_mem c member))
      exact result_bare (.number (.ofNat n)) starts bare word ends

/-! ### Strings -/

theorem result_hexChar {d missing : Nat} (small : d < 16) (more : 1 < missing)
    (sofar : Spelling) (value : Nat) (s : List Char) :
    result ⟨.hex sofar missing value, p⟩ (Text.hexChar d :: s) =
      result ⟨.hex sofar (missing - 1) (value * 16 + d), p⟩ s := by
  rw [result_cons]
  simp only [step, lexChar, Text.hexDigit?_hexChar small, if_neg (Nat.not_le.mpr more),
    Parsing.steps, Option.bind_some]

theorem result_lastHexChar {d : Nat} (small : d < 16) (sofar : Spelling) (value : Nat)
    (s : List Char) :
    result ⟨.hex sofar 1 value, p⟩ (Text.hexChar d :: s) =
      result ⟨.inString (sofar.addUnit (value * 16 + d)), p⟩ s := by
  rw [result_cons]
  simp only [step, lexChar, Text.hexDigit?_hexChar small, Nat.le_refl, if_true,
    Parsing.steps, Option.bind_some]

/-- A control character that is written by its number. -/
theorem result_hexDigits {value : Nat} (control : value < 32) (chars s : List Char) :
    result ⟨.hex ⟨chars, none, true⟩ 4 0, p⟩ (Text.hexDigits 4 value ++ s) =
      result ⟨.inString ⟨Char.ofNat value :: chars, none, true⟩, p⟩ s := by
  have digit (k : Nat) : k % 16 < 16 := Nat.mod_lt k (by decide)
  have number : (((0 * 16 + value / 16 / 16 / 16 % 16) * 16 + value / 16 / 16 % 16) * 16 +
      value / 16 % 16) * 16 + value % 16 = value := by omega
  have unit : (Spelling.mk chars none true).addUnit value =
      ⟨Char.ofNat value :: chars, none, true⟩ := by
    rw [Spelling.addUnit]
    simp only
    rw [if_neg (by omega), if_neg (by omega)]
  simp only [Text.hexDigits, List.nil_append, List.cons_append]
  rw [result_hexChar (digit _) (by decide), result_hexChar (digit _) (by decide),
    result_hexChar (digit _) (by decide), result_lastHexChar (digit _), number, unit]

theorem result_backslash {c meant : Char} (letter : c ≠ 'u') (means : escape? c = some meant)
    (chars s : List Char) :
    result ⟨.inString ⟨chars, none, true⟩, p⟩ ('\\' :: c :: s) =
      result ⟨.inString ⟨meant :: chars, none, true⟩, p⟩ s := by
  have escapes : lexChar (.inString ⟨chars, none, true⟩) '\\' =
      some ([], .escaped ⟨chars, none, true⟩) := rfl
  rw [result_cons]
  simp only [step, escapes, Parsing.steps, Option.bind_some]
  rw [result_cons]
  simp only [step, lexChar, if_neg letter, means, Option.map_some, Parsing.steps,
    Option.bind_some]
  rfl

theorem result_escapeChar (c : Char) (chars s : List Char) :
    result ⟨.inString ⟨chars, none, true⟩, p⟩ (escapeChar c ++ s) =
      result ⟨.inString ⟨c :: chars, none, true⟩, p⟩ s := by
  have ofNat {n : Nat} (is : c.toNat = n) : Char.ofNat n = c := by
    rw [← is, Char.ofNat_toNat]
  rw [escapeChar]
  split
  · next quote =>
      subst quote
      exact result_backslash (by decide) (by decide) chars s
  split
  · next backslash =>
      subst backslash
      exact result_backslash (by decide) (by decide) chars s
  split
  · next newline =>
      subst newline
      exact result_backslash (by decide) (by decide) chars s
  split
  · next ret =>
      subst ret
      exact result_backslash (by decide) (by decide) chars s
  split
  · next tab =>
      subst tab
      exact result_backslash (by decide) (by decide) chars s
  split
  · next back =>
      rw [← ofNat back]
      exact result_backslash (by decide) (by decide) chars s
  split
  · next feed =>
      rw [← ofNat feed]
      exact result_backslash (by decide) (by decide) chars s
  split
  · next control =>
      have escapes : lexChar (.inString ⟨chars, none, true⟩) '\\' =
          some ([], .escaped ⟨chars, none, true⟩) := rfl
      have numbers : lexChar (.escaped ⟨chars, none, true⟩) 'u' =
          some ([], .hex ⟨chars, none, true⟩ 4 0) := rfl
      simp only [List.cons_append, List.nil_append]
      rw [result_cons]
      simp only [step, escapes, Parsing.steps, Option.bind_some]
      rw [result_cons]
      simp only [step, numbers, Parsing.steps, Option.bind_some]
      rw [result_hexDigits control, ofNat rfl]
  · next quote backslash _ _ _ _ _ visible =>
      rw [List.singleton_append, result_cons]
      simp only [step, lexChar, if_neg quote, if_neg backslash, if_neg visible, Parsing.steps,
        Option.bind_some]
      rfl

theorem result_escaped (text chars s : List Char) :
    result ⟨.inString ⟨chars, none, true⟩, p⟩ (text.flatMap escapeChar ++ s) =
      result ⟨.inString ⟨text.reverse ++ chars, none, true⟩, p⟩ s := by
  induction text generalizing chars with
  | nil => rfl
  | cons c rest ih =>
      rw [List.flatMap_cons, List.append_assoc, result_escapeChar, ih]
      simp

theorem result_quote (text : String) (s : List Char) :
    result ⟨.between, p⟩ (quote text ++ s) =
      Parsing.resume (p.step (.string (some text))) s := by
  have opens : lexBetween '"' = some ([], .inString .empty) := by decide
  have closes (chars : List Char) : lexChar (.inString ⟨chars, none, true⟩) '"' =
      some ([.string (some (String.ofList chars.reverse))], .between) := rfl
  rw [quote, List.cons_append, result_cons]
  simp only [step, lexChar, opens, Parsing.steps, Option.bind_some]
  rw [Spelling.empty, List.append_assoc, result_escaped, List.singleton_append, result_cons]
  simp only [step, closes, List.append_nil, List.reverse_reverse, String.ofList_toList,
    Parsing.steps, Parsing.resume]
  cases p.step (.string (some text)) with
  | none => rfl
  | some next => rfl

end Reading

/-! ## Values -/

namespace Parsing

def Awaits (p : Parsing) (stack : List Open) : Prop :=
  p = ⟨.value, stack⟩ ∨ p = ⟨.firstItem, stack⟩

def AwaitsKey (p : Parsing) (stack : List Open) : Prop :=
  p = ⟨.key, stack⟩ ∨ p = ⟨.firstKey, stack⟩

variable {p : Parsing} {stack : List Open}

theorem Awaits.step (awaits : p.Awaits stack) (token : Token) (other : token ≠ .closeArray) :
    p.step token = stepValue stack token := by
  rcases awaits with rfl | rfl
  · rfl
  · simp only [Parsing.step, if_neg other]

theorem AwaitsKey.step (awaits : p.AwaitsKey stack) (key : Option String) :
    p.step (.string key) = stepKey stack (.string key) := by
  rcases awaits with rfl | rfl
  · rfl
  · simp [Parsing.step]

def named (field : String × Json) : Option String × Json := (some field.1, field.2)

theorem closeObject_named (fields : List (String × Json)) :
    closeObject (fields.map named).reverse = .object fields := by
  have names : namedFields (fields.map named) = some fields := by
    induction fields with
    | nil => rfl
    | cons field rest ih => simp only [List.map_cons, named, namedFields, ih]
  rw [closeObject, List.reverse_reverse, names]

end Parsing

open Parsing

theorem itemsToList_cons_cons (item next : Json) (more : List Json) :
    itemsToList (item :: next :: more) = item.toList ++ ',' :: itemsToList (next :: more) := by
  rw [itemsToList]
  nofun

theorem fieldsToList_cons_cons (name : String) (value : Json) (next : String × Json)
    (more : List (String × Json)) :
    fieldsToList ((name, value) :: next :: more) =
      quote name ++ ':' :: (value.toList ++ ',' :: fieldsToList (next :: more)) := by
  rw [fieldsToList]
  nofun

theorem result_comma {p : Parsing} (s : List Char) :
    Reading.result ⟨.between, p⟩ (',' :: s) = resume (p.step .comma) s :=
  Reading.result_mark .comma (by decide) s

mutual

/-- A written value is handed to what is open around it, and reading goes on behind it. -/
theorem result_toList (j : Json) (plain : j.Plain) (stack : List Open) {p : Parsing}
    (awaits : p.Awaits stack) {s : List Char} (ends : Ends s) :
    Reading.result ⟨.between, p⟩ (j.toList ++ s) = resume (complete j stack) s := by
  match j, plain with
  | .null, _ =>
      have word := Reading.result_bare .null (p := p) (c := 'n') (w := ['u', 'l', 'l'])
        (by decide) (by decide) (by decide) ends
      rwa [awaits.step .null nofun] at word
  | .bool true, _ =>
      have word := Reading.result_bare (.bool true) (p := p) (c := 't')
        (w := ['r', 'u', 'e']) (by decide) (by decide) (by decide) ends
      rwa [awaits.step (.bool true) nofun] at word
  | .bool false, _ =>
      have word := Reading.result_bare (.bool false) (p := p) (c := 'f')
        (w := ['a', 'l', 's', 'e']) (by decide) (by decide) (by decide) ends
      rwa [awaits.step (.bool false) nofun] at word
  | .number n, plain =>
      obtain ⟨m, rfl⟩ := plain
      rw [toList, Numeral.ofNat_toList, Reading.result_digits m ends,
        awaits.step (.number (.ofNat m)) nofun]
      rfl
  | .string text, _ =>
      rw [toList, Reading.result_quote, awaits.step (.string (some text)) nofun]
      rfl
  | .array items, plain =>
      have opened := Reading.result_mark .openArray (p := p) (c := '[') (by decide)
        (itemsToList items ++ ']' :: s)
      rw [awaits.step .openArray nofun] at opened
      simp only [toList, List.cons_append, List.append_assoc, List.nil_append]
      rw [opened]
      match items, plain with
      | [], _ => exact Reading.result_mark .closeArray (c := ']') (by decide) s
      | item :: rest, plain =>
          exact result_itemsToList item rest plain [] stack (Or.inr rfl) s
  | .object fields, plain =>
      have opened := Reading.result_mark .openObject (p := p) (c := '{') (by decide)
        (fieldsToList fields ++ '}' :: s)
      rw [awaits.step .openObject nofun] at opened
      simp only [toList, List.cons_append, List.append_assoc, List.nil_append]
      rw [opened]
      match fields, plain with
      | [], _ => exact Reading.result_mark .closeObject (c := '}') (by decide) s
      | (name, value) :: rest, plain =>
          have read := result_fieldsToList name value rest plain [] stack (Or.inr rfl) s
          rwa [List.append_nil, closeObject_named] at read
  termination_by sizeOf j

/-- The items that are left, behind those that were read. -/
theorem result_itemsToList (item : Json) (rest : List Json) (plain : AllPlain (item :: rest))
    (before : List Json) (stack : List Open) {p : Parsing}
    (awaits : p.Awaits (.array before :: stack)) (s : List Char) :
    Reading.result ⟨.between, p⟩ (itemsToList (item :: rest) ++ ']' :: s) =
      resume (complete (.array (before.reverse ++ item :: rest)) stack) s := by
  match rest, plain with
  | [], plain =>
      rw [itemsToList, result_toList item plain.1 _ awaits (ends_cons (by decide))]
      have closed := Reading.result_mark .closeArray
        (p := ⟨.after, .array (item :: before) :: stack⟩) (c := ']') (by decide) s
      rw [← List.reverse_cons]
      exact closed
  | next :: more, plain =>
      have rest := result_itemsToList next more plain.2 (item :: before) stack (Or.inl rfl) s
      rw [itemsToList_cons_cons, List.append_assoc, List.cons_append,
        result_toList item plain.1 _ awaits (ends_cons (by decide))]
      rw [List.reverse_cons, List.append_assoc, List.singleton_append] at rest
      exact (result_comma _).trans rest
  termination_by sizeOf (item :: rest)

/-- The fields that are left, behind those that were read. -/
theorem result_fieldsToList (name : String) (value : Json) (rest : List (String × Json))
    (plain : FieldsPlain ((name, value) :: rest)) (before : List (Option String × Json))
    (stack : List Open) {p : Parsing} (awaits : p.AwaitsKey (.object before :: stack))
    (s : List Char) :
    Reading.result ⟨.between, p⟩ (fieldsToList ((name, value) :: rest) ++ '}' :: s) =
      resume (complete (closeObject ((((name, value) :: rest).map named).reverse ++ before)) stack)
        s := by
  have keyed (t : List Char) (ends : Ends t) :
      Reading.result ⟨.between, p⟩ (quote name ++ ':' :: (value.toList ++ t)) =
        resume (some ⟨.after, .object ((some name, value) :: before) :: stack⟩) t := by
    rw [Reading.result_quote, awaits.step]
    have colon := Reading.result_mark .colon (p := ⟨.colon, .member before (some name) :: stack⟩)
      (c := ':') (by decide) (value.toList ++ t)
    exact colon.trans (result_toList value plain.1 _ (Or.inl rfl) ends)
  match rest, plain with
  | [], plain =>
      rw [fieldsToList, List.append_assoc, List.cons_append, keyed _ (ends_cons (by decide))]
      exact Reading.result_mark .closeObject (c := '}') (by decide) s
  | (next, other) :: more, plain =>
      have rest := result_fieldsToList next other more plain.2 ((some name, value) :: before)
        stack (Or.inl rfl) s
      rw [fieldsToList_cons_cons, List.append_assoc, List.cons_append, List.append_assoc,
        List.cons_append, keyed _ (ends_cons (by decide))]
      rw [List.map_cons, List.reverse_cons, List.append_assoc]
      exact (result_comma _).trans rest
  termination_by sizeOf ((name, value) :: rest)

end

theorem parse_toList {j : Json} (plain : j.Plain) : parse j.toList = some j := by
  have read := result_toList j plain [] (p := .start) (Or.inl rfl) ends_nil
  rw [List.append_nil] at read
  have start : parse j.toList = Reading.result ⟨.between, .start⟩ j.toList := by
    rw [parse, Reading.result, Reading.start]
    cases Reading.run ⟨.between, .start⟩ j.toList with
    | none => rfl
    | some r => rfl
  rw [start, read]
  rfl

theorem parseText_render {j : Json} (plain : j.Plain) : parseText j.render = some j := by
  rw [parseText, render, String.toList_ofList, parse_toList plain]

end Json
end CardPayments
