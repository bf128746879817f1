import HandleBridge.Proofs.Parsing

/-!
# Proofs/Grammar — whatever spells a value is read as the value

A text spells a value if it consists of the value's words with blanks around them.  The words of
strings and of numbers can be spelled in many ways, and the grammar here says in which without
looking at the reader.  The reader takes every such text for the value that it spells
(`Json.Spells.read?`), and no text in which anything but blanks comes after it
(`Json.Spells.read?_append`).
-/

namespace HandleBridge.Json

/-! ## Spelled words -/

/-- The spellings of a character in a string, and of a unit. -/
inductive SpellsPiece : List Char → Piece → Prop where
  | plain {c : Char} (hquote : c ≠ '"') (hback : c ≠ '\\') (hcontrol : ¬ c.toNat < 0x20) :
      SpellsPiece [c] (.char c)
  | escaped {e c : Char} (h : unescape? e = some c) : SpellsPiece ['\\', e] (.char c)
  | unit {a b c d : Char} {n : Nat} (h : Hex.value? [a, b, c, d] = some n) :
      SpellsPiece ['\\', 'u', a, b, c, d] (.unit n)

/-- The spellings of what is between the quotes of a string. -/
inductive SpellsPieces : List Char → List Piece → Prop where
  | nil : SpellsPieces [] []
  | cons {s rest : List Char} {piece : Piece} {pieces : List Piece} (h : SpellsPiece s piece)
      (hrest : SpellsPieces rest pieces) : SpellsPieces (s ++ rest) (piece :: pieces)

/-- A fraction, if there is one. -/
inductive Fraction : List Char → Prop where
  | absent : Fraction []
  | digits {digits : List Char} (hne : digits ≠ []) (h : AllDigits digits) :
      Fraction ('.' :: digits)

/-- An exponent, if there is one. -/
inductive Exponent : List Char → Prop where
  | absent : Exponent []
  | digits {e : Char} {sign digits : List Char} (he : e = 'e' ∨ e = 'E')
      (hsign : sign = [] ∨ sign = ['+'] ∨ sign = ['-']) (hne : digits ≠ [])
      (h : AllDigits digits) : Exponent (e :: (sign ++ digits))

/-- The sign of a number. -/
def minus (negative : Bool) : List Char := if negative then ['-'] else []

/-- The spellings of a number.  One with a fraction or an exponent is no integer, nor is a negated
zero. -/
inductive SpellsNumber : List Char → Token → Prop where
  | integer {negative : Bool} {digits : List Char} (h : AllDigits digits)
      (hwhole : isWholePart digits = true) (hsign : negative = true → ofDigits digits ≠ 0) :
      SpellsNumber (minus negative ++ digits)
        (.integer (if negative then -ofDigits digits else ofDigits digits))
  | real {negative : Bool} {digits fraction exponent : List Char} (h : AllDigits digits)
      (hwhole : isWholePart digits = true) (hfraction : Fraction fraction)
      (hexponent : Exponent exponent)
      (hreal : fraction ≠ [] ∨ exponent ≠ [] ∨ negative = true ∧ ofDigits digits = 0) :
      SpellsNumber (minus negative ++ digits ++ fraction ++ exponent)
        (.real (minus negative ++ digits ++ fraction ++ exponent))

/-- The marks, with the one way to spell each. -/
def marks : List (Char × Token) :=
  [('{', .leftBrace), ('}', .rightBrace), ('[', .leftBracket), (']', .rightBracket), (',', .comma),
    (':', .colon)]

/-- The spellings of a word. -/
inductive SpellsWord : List Char → Token → Prop where
  | mark {c : Char} {token : Token} (h : (c, token) ∈ marks) : SpellsWord [c] token
  | null : SpellsWord ['n', 'u', 'l', 'l'] .null
  | no : SpellsWord ['f', 'a', 'l', 's', 'e'] (.bool false)
  | yes : SpellsWord ['t', 'r', 'u', 'e'] (.bool true)
  | string {s : List Char} {pieces : List Piece} (h : SpellsPieces s pieces) :
      SpellsWord ('"' :: (s ++ ['"'])) (.string (String.ofList <$> join pieces))
  | number {s : List Char} {token : Token} (h : SpellsNumber s token) : SpellsWord s token

/-! ## Spelled texts -/

/-- Is there nothing but blanks? -/
def Blank (s : List Char) : Prop := ∀ c ∈ s, isSpace c = true

/-- The spellings of words one after the other, with blanks around them. -/
inductive SpellsWords : List Char → List Token → Prop where
  | done {blanks : List Char} (h : Blank blanks) : SpellsWords blanks []
  | word {blanks s rest : List Char} {token : Token} {words : List Token} (h : Blank blanks)
      (hword : SpellsWord s token) (hrest : SpellsWords rest words) :
      SpellsWords (blanks ++ (s ++ rest)) (token :: words)

/-- **Does a text spell a value?** -/
def Spells (text : String) (j : Json) : Prop := SpellsWords text.toList j.words

namespace SpellsWords

variable {s rest : List Char} {token : Token} {words : List Token}

/-- A word with no blanks in front. -/
theorem next (hword : SpellsWord s token) (hrest : SpellsWords rest words) :
    SpellsWords (s ++ rest) (token :: words) := .word (List.forall_mem_nil _) hword hrest

theorem mark {c : Char} (h : (c, token) ∈ marks) (hrest : SpellsWords rest words) :
    SpellsWords (c :: rest) (token :: words) := next (.mark h) hrest

/-- A blank in front. -/
theorem space {c : Char} (hc : isSpace c = true) (h : SpellsWords s words) :
    SpellsWords (c :: s) words := by
  cases h with
  | done h => exact .done (List.forall_mem_cons.2 ⟨hc, h⟩)
  | word h hword hrest => exact .word (List.forall_mem_cons.2 ⟨hc, h⟩) hword hrest

end SpellsWords

/-- A string of which no character has to be escaped. -/
theorem spellsWord_text {s : List Char}
    (h : ∀ c ∈ s, c ≠ '"' ∧ c ≠ '\\' ∧ ¬ c.toNat < 0x20) :
    SpellsWord ('"' :: (s ++ ['"'])) (.string (some (String.ofList s))) := by
  have hpieces : SpellsPieces s (s.map .char) ∧ join (s.map .char) = some s := by
    induction s with
    | nil => exact ⟨.nil, rfl⟩
    | cons c s ih =>
      obtain ⟨⟨hquote, hback, hcontrol⟩, hrest⟩ := List.forall_mem_cons.1 h
      obtain ⟨hspells, hjoin⟩ := ih hrest
      refine ⟨.cons (s := [c]) (.plain hquote hback hcontrol) hspells, ?_⟩
      rw [List.map_cons, join, hjoin]
      rfl
  have hword := SpellsWord.string hpieces.1
  rwa [hpieces.2] at hword

/-! ## Scanning a word -/

/-- Is a word found at the start of a text, in front of the rest? -/
def Begins (s : List Char) (token : Token) (rest : List Char) : Prop :=
  ∃ c tail, s = c :: tail ∧ isSpace c = false ∧ scanToken (s ++ rest) = some (token, rest)

section Words

variable {s rest : List Char} {token : Token}

theorem SpellsPiece.scanPieces {piece : Piece} (h : SpellsPiece s piece) (rest : List Char) :
    scanPieces (s ++ rest) = (scanPieces rest).map fun p => (piece :: p.1, p.2) := by
  cases h with
  | plain hquote hback hcontrol => exact scanPieces_plain hquote hback hcontrol
  | escaped h => exact scanPieces_escaped h
  | unit h => exact scanPieces_hex h

theorem SpellsPieces.scanPieces {pieces : List Piece} (h : SpellsPieces s pieces)
    (rest : List Char) : scanPieces (s ++ '"' :: rest) = some (pieces, rest) := by
  induction h with
  | nil => rw [List.nil_append, Json.scanPieces]
  | cons h hrest ih =>
    rw [List.append_assoc, h.scanPieces, ih]
    rfl

theorem Exponent.scanExponent {exponent : List Char} (h : Exponent exponent) (hends : Ends rest) :
    scanExponent (exponent ++ rest) = some (exponent, rest) := by
  cases h with
  | absent => exact hends.scanExponent
  | digits he hsign hne h =>
    rename_i e sign digits
    have hscan : scanSign (sign ++ (digits ++ rest)) = (sign, digits ++ rest) := by
      rcases hsign with rfl | rfl | rfl
      · obtain ⟨d, digits, rfl⟩ := List.exists_cons_of_ne_nil hne
        have hd : d.isDigit = true := h d List.mem_cons_self
        rw [List.nil_append, List.cons_append, scanSign]
        all_goals
          rintro rest ⟨⟩
          exact absurd hd (by decide)
      · rfl
      · rfl
    have hletter : (decide (e = 'e') || decide (e = 'E')) = true := by simpa using he
    rw [List.cons_append, Json.scanExponent, if_pos hletter, List.append_assoc, hscan]
    dsimp only
    rw [h.takeWhile hends.noDigit, h.dropWhile hends.noDigit, if_neg (by simpa using hne)]
    rfl

theorem Fraction.scanFraction {fraction : List Char} (h : Fraction fraction)
    (hdigit : NoDigit rest) (hpoint : rest.head? ≠ some '.') :
    scanFraction (fraction ++ rest) = some (fraction, rest) := by
  cases h with
  | absent =>
    rw [List.nil_append, Json.scanFraction]
    rintro rest rfl
    exact hpoint rfl
  | digits hne h =>
    rw [List.cons_append, Json.scanFraction, h.takeWhile hdigit, h.dropWhile hdigit,
      if_neg (by simpa using hne)]

/-- What follows the digits of a number. -/
theorem Exponent.noDigit {exponent : List Char} (h : Exponent exponent) (hends : Ends rest) :
    NoDigit (exponent ++ rest) ∧ (exponent ++ rest).head? ≠ some '.' := by
  cases h with
  | absent => exact ⟨hends.noDigit, fun h => (hends '.' h).2.1 rfl⟩
  | digits he _ _ _ =>
    refine ⟨?_, ?_⟩
    · rintro c ⟨⟩
      rcases he with rfl | rfl <;> decide
    · rintro ⟨⟩
      rcases he with he | he <;> exact absurd he (by decide)

theorem Fraction.noDigit {fraction : List Char} (h : Fraction fraction) (hrest : NoDigit rest) :
    NoDigit (fraction ++ rest) := by
  cases h with
  | absent => exact hrest
  | digits _ _ =>
    rintro c ⟨⟩
    decide

/-- The digits of a number are found with what comes after them. -/
theorem scanMagnitude_parts {digits fraction exponent : List Char} (h : AllDigits digits)
    (hwhole : isWholePart digits = true) (hfraction : Fraction fraction)
    (hexponent : Exponent exponent) (hends : Ends rest) (negative : Bool) :
    scanMagnitude negative (digits ++ (fraction ++ (exponent ++ rest))) =
      if fraction.isEmpty && exponent.isEmpty then
        match negative, ofDigits digits with
        | false, n => some (.integer n, rest)
        | true, 0 => some (.real (minus negative ++ digits), rest)
        | true, n => some (.integer (-n), rest)
      else some (.real (minus negative ++ digits ++ fraction ++ exponent), rest) := by
  obtain ⟨hdigit, hpoint⟩ := hexponent.noDigit hends
  have hnext := hfraction.noDigit hdigit
  rw [scanMagnitude, h.takeWhile hnext, h.dropWhile hnext, hwhole,
    hfraction.scanFraction hdigit hpoint]
  simp only [Bool.not_true, Bool.false_eq_true, if_false, Option.bind_eq_bind, Option.bind_some,
    hexponent.scanExponent hends]
  rfl

/-- A number without a sign begins with a digit. -/
theorem isDigit_of_isWholePart {digits : List Char} (h : AllDigits digits)
    (hwhole : isWholePart digits = true) : ∃ c tail, digits = c :: tail ∧ c.isDigit = true := by
  rcases digits with _ | ⟨c, tail⟩
  · exact Bool.noConfusion hwhole
  · exact ⟨c, tail, rfl, h c List.mem_cons_self⟩

/-- A number begins with its sign, or with its first digit. -/
theorem begins_minus {negative : Bool} {digits : List Char} (h : AllDigits digits)
    (hwhole : isWholePart digits = true) (after : List Char)
    (hscan : scanMagnitude negative (digits ++ (after ++ rest)) = some (token, rest)) :
    Begins (minus negative ++ (digits ++ after)) token rest := by
  obtain ⟨c, tail, rfl, hc⟩ := isDigit_of_isWholePart h hwhole
  rw [Begins, List.append_assoc, List.append_assoc]
  cases negative with
  | false =>
    exact ⟨c, tail ++ after, rfl, not_isSpace_of_isDigit hc, (scanToken_digit hc _).trans hscan⟩
  | true =>
    exact ⟨'-', c :: (tail ++ after), rfl, rfl, (scanToken_minus _).trans hscan⟩

theorem SpellsNumber.begins (h : SpellsNumber s token) (hends : Ends rest) :
    Begins s token rest := by
  cases h with
  | integer h hwhole hsign =>
    rename_i negative digits
    have hscan := scanMagnitude_parts h hwhole .absent .absent hends negative
    have hinteger : scanMagnitude negative (digits ++ ([] ++ rest)) =
        some (.integer (if negative then -ofDigits digits else ofDigits digits), rest) := by
      refine hscan.trans ?_
      cases negative with
      | false => rfl
      | true =>
        obtain ⟨n, hn⟩ := Nat.exists_eq_succ_of_ne_zero (hsign rfl)
        rw [hn]
        rfl
    have hbegins := begins_minus h hwhole [] hinteger
    rwa [List.append_nil] at hbegins
  | real h hwhole hfraction hexponent hreal =>
    rename_i negative digits fraction exponent
    have hscan := scanMagnitude_parts h hwhole hfraction hexponent hends negative
    have hspelled : scanMagnitude negative (digits ++ (fraction ++ exponent ++ rest)) =
        some (.real (minus negative ++ digits ++ fraction ++ exponent), rest) := by
      rw [List.append_assoc, hscan]
      split
      · rename_i hempty
        obtain ⟨rfl, rfl⟩ : fraction = [] ∧ exponent = [] := by simpa using hempty
        obtain ⟨rfl, hzero⟩ : negative = true ∧ ofDigits digits = 0 := by simpa using hreal
        rw [hzero, List.append_nil, List.append_nil]
        rfl
      · rfl
    have hbegins := begins_minus h hwhole (fraction ++ exponent) hspelled
    rwa [← List.append_assoc, ← List.append_assoc] at hbegins

/-- Is the word a number? -/
def Token.isNumber : Token → Bool
  | integer _ => true
  | real _ => true
  | _ => false

/-- **A spelled word is found.**  Only a number has to end before what follows. -/
theorem SpellsWord.begins (h : SpellsWord s token) (hends : token.isNumber = true → Ends rest) :
    Begins s token rest := by
  cases h with
  | mark h =>
    simp only [marks, List.mem_cons, Prod.mk.injEq, List.not_mem_nil, or_false] at h
    rcases h with ⟨rfl, rfl⟩ | ⟨rfl, rfl⟩ | ⟨rfl, rfl⟩ | ⟨rfl, rfl⟩ | ⟨rfl, rfl⟩ | ⟨rfl, rfl⟩ <;>
      exact ⟨_, _, rfl, rfl, rfl⟩
  | null => exact ⟨_, _, rfl, rfl, rfl⟩
  | no => exact ⟨_, _, rfl, rfl, rfl⟩
  | yes => exact ⟨_, _, rfl, rfl, rfl⟩
  | string h =>
    rename_i s pieces
    refine ⟨'"', s ++ ['"'], rfl, rfl, ?_⟩
    rw [List.cons_append, List.append_assoc, List.singleton_append, scanToken, scanString,
      h.scanPieces]
    rfl
  | number h =>
    cases h with
    | integer h hwhole hsign => exact SpellsNumber.begins (.integer h hwhole hsign) (hends rfl)
    | real h hwhole hfraction hexponent hreal =>
      exact SpellsNumber.begins (.real h hwhole hfraction hexponent hreal) (hends rfl)

/-- A number ends where a word that is no number begins. -/
theorem SpellsWord.ends (h : SpellsWord s token) (hnumber : token.isNumber = false)
    (rest : List Char) : Ends (s ++ rest) := by
  cases h with
  | mark h =>
    simp only [marks, List.mem_cons, Prod.mk.injEq, List.not_mem_nil, or_false] at h
    rcases h with ⟨rfl, rfl⟩ | ⟨rfl, rfl⟩ | ⟨rfl, rfl⟩ | ⟨rfl, rfl⟩ | ⟨rfl, rfl⟩ | ⟨rfl, rfl⟩ <;>
      · rintro c ⟨⟩
        decide
  | number h =>
    cases h <;> exact Bool.noConfusion hnumber
  | _ =>
    rintro c ⟨⟩
    decide

end Words

/-! ## Scanning a text -/

/-- Does each number come before a word that is none? -/
def Apart : List Token → Prop
  | [] => True
  | token :: rest =>
    (token.isNumber = true → ∃ next tail, rest = next :: tail ∧ next.isNumber = false) ∧ Apart rest

theorem Apart.cons {token : Token} {words : List Token} (h : token.isNumber = false)
    (hwords : Apart words) : Apart (token :: words) :=
  ⟨fun hnumber => absurd (h.symm.trans hnumber) Bool.false_ne_true, hwords⟩

theorem scanAll_blanks {blanks : List Char} (h : Blank blanks) (fuel : Nat) (rest : List Char) :
    scanAll (fuel + blanks.length) (blanks ++ rest) = scanAll fuel rest := by
  induction blanks with
  | nil => rfl
  | cons c blanks ih =>
    obtain ⟨hc, hblanks⟩ := List.forall_mem_cons.1 h
    rw [List.length_cons, List.cons_append, ← Nat.add_assoc, scanAll, if_pos hc]
    exact ih hblanks

theorem Begins.scanAll {s rest : List Char} {token : Token} (h : Begins s token rest)
    (fuel : Nat) : scanAll (fuel + 1) (s ++ rest) = (token :: ·) <$> scanAll fuel rest := by
  obtain ⟨c, tail, rfl, hspace, hscan⟩ := h
  rw [List.cons_append] at hscan ⊢
  rw [Json.scanAll, if_neg (Bool.eq_false_iff.1 hspace), hscan]
  simp only [Option.bind_eq_bind, Option.bind_some]
  cases Json.scanAll fuel rest <;> rfl

theorem SpellsWords.ends {s : List Char} {token : Token} {words : List Token}
    (h : SpellsWords s (token :: words)) (hnumber : token.isNumber = false) (rest : List Char) :
    Ends (s ++ rest) := by
  cases h with
  | word h hword hrest =>
    rename_i blanks s s'
    rw [List.append_assoc, List.append_assoc]
    rcases blanks with _ | ⟨c, blanks⟩
    · exact hword.ends hnumber _
    · rintro c' ⟨⟩
      have hspace := h c List.mem_cons_self
      simp only [isSpace, Bool.or_eq_true, decide_eq_true_eq] at hspace
      rcases hspace with ((rfl | rfl) | rfl) | rfl <;> decide

/-- **Spelled words are found one after the other**, each for a step at least. -/
theorem SpellsWords.scanAll {s : List Char} {words : List Token} (h : SpellsWords s words)
    (hapart : Apart words) : ∃ steps ≤ s.length, ∀ fuel rest,
      scanAll (fuel + steps) (s ++ rest) = (words ++ ·) <$> scanAll fuel rest := by
  induction h with
  | done h =>
    rename_i blanks
    refine ⟨blanks.length, Nat.le_refl _, fun fuel rest => ?_⟩
    rw [scanAll_blanks h]
    cases Json.scanAll fuel rest <;> rfl
  | word h hword hrest ih =>
    rename_i blanks s s' token words
    obtain ⟨hnext, hwords⟩ := hapart
    obtain ⟨steps, hsteps, hscan⟩ := ih hwords
    have hbegins (rest : List Char) : Begins s token (s' ++ rest) := by
      refine hword.begins fun hnumber => ?_
      obtain ⟨next, tail, rfl, hnot⟩ := hnext hnumber
      exact hrest.ends hnot rest
    refine ⟨steps + 1 + blanks.length, ?_, fun fuel rest => ?_⟩
    · obtain ⟨c, tail, rfl, -⟩ := hbegins []
      simp only [List.length_append, List.length_cons]
      omega
    · rw [← Nat.add_assoc, List.append_assoc, scanAll_blanks h, ← Nat.add_assoc, List.append_assoc,
        (hbegins rest).scanAll, hscan]
      cases Json.scanAll fuel rest <;> rfl

theorem scanAll_ne_nil {s : List Char} (h : ¬ Blank s) (fuel : Nat) : scanAll fuel s ≠ some [] := by
  induction s generalizing fuel with
  | nil => exact absurd (List.forall_mem_nil _) h
  | cons c s ih =>
    cases fuel with
    | zero => nofun
    | succ fuel =>
      rw [scanAll]
      split
      · rename_i hspace
        exact ih (fun hblank => h (List.forall_mem_cons.2 ⟨hspace, hblank⟩)) fuel
      · intro hnil
        obtain ⟨token, -, hnil⟩ := Option.bind_eq_some_iff.1 hnil
        obtain ⟨words, -, hnil⟩ := Option.bind_eq_some_iff.1 hnil
        cases hnil

/-! ## The words of a value -/

/-- Do the words of a value come apart, whatever follows that is no number? -/
def Separable (j : Json) : Prop :=
  ∀ next rest, next.isNumber = false → Apart (next :: rest) → Apart (j.words ++ next :: rest)

theorem apart_elementWords {elements : List Json} (h : ∀ j ∈ elements, Separable j)
    {rest : List Token} (hrest : Apart rest) :
    Apart (elementWords elements ++ .rightBracket :: rest) := by
  have hclose : Apart (.rightBracket :: rest) := .cons rfl hrest
  induction elements with
  | nil => exact hclose
  | cons value elements ih =>
    obtain ⟨hvalue, helements⟩ := List.forall_mem_cons.1 h
    cases elements with
    | nil => exact hvalue _ _ rfl hclose
    | cons next elements =>
      rw [elementWords, List.append_assoc]
      · exact hvalue _ _ rfl (.cons rfl (ih helements))
      · simp

theorem apart_memberWords {members : List (Option String × Json)}
    (h : ∀ m ∈ members, Separable m.2) {rest : List Token} (hrest : Apart rest) :
    Apart (memberWords members ++ .rightBrace :: rest) := by
  have hclose : Apart (.rightBrace :: rest) := .cons rfl hrest
  induction members with
  | nil => exact hclose
  | cons member members ih =>
    obtain ⟨hvalue, hmembers⟩ := List.forall_mem_cons.1 h
    cases members with
    | nil =>
      rw [memberWords]
      exact .cons rfl (.cons rfl (hvalue _ _ rfl hclose))
    | cons next members =>
      rw [memberWords, List.cons_append, List.cons_append, List.append_assoc]
      · exact .cons rfl (.cons rfl (hvalue _ _ rfl (.cons rfl (ih hmembers))))
      · simp

theorem separable (j : Json) : Separable j := by
  induction j using induction_parts with
  | array elements ih =>
    intro next rest hnext hrest
    rw [words, List.cons_append, List.append_assoc]
    exact .cons rfl (apart_elementWords ih hrest)
  | object members ih =>
    intro next rest hnext hrest
    rw [words, List.cons_append, List.append_assoc]
    exact .cons rfl (apart_memberWords ih hrest)
  | word j harray hobject =>
    intro next rest hnext hrest
    cases j with
    | array elements => exact absurd rfl (harray elements)
    | object members => exact absurd rfl (hobject members)
    | integer n => exact ⟨fun _ => ⟨next, rest, rfl, hnext⟩, hrest⟩
    | real spelling => exact ⟨fun _ => ⟨next, rest, rfl, hnext⟩, hrest⟩
    | _ => exact .cons rfl hrest

/-! ## Reading a text -/

section Objects

variable {text : String} {members : List (Option String × Json)}

theorem apart_object (members : List (Option String × Json)) : Apart (words (.object members)) :=
  .cons rfl (apart_memberWords (fun m _ => m.2.separable) trivial)

/-- The words of an object are found in front of any rest. -/
theorem Spells.scan_append (h : Spells text (.object members)) (rest : List Char) :
    ∃ fuel, rest.length ≤ fuel ∧ Token.scan (text.toList ++ rest) =
      (words (.object members) ++ ·) <$> scanAll fuel rest := by
  obtain ⟨steps, hsteps, hscan⟩ := SpellsWords.scanAll h (apart_object members)
  refine ⟨text.toList.length - steps + rest.length, Nat.le_add_left _ _, ?_⟩
  rw [← hscan, Token.scan, List.length_append]
  congr 1
  omega

/-- **What spells an object is read as the object.** -/
theorem Spells.read? (h : Spells text (.object members)) : read? text = some (.object members) := by
  obtain ⟨fuel, -, hscan⟩ := h.scan_append []
  have hnil : scanAll fuel [] = some [] := by cases fuel <;> rfl
  rw [List.append_nil, hnil] at hscan
  have hparse := (Json.object members).parsable (2 * (words (.object members)).length + 1) []
    (by omega)
  rw [Json.read?, hscan]
  simp only [Option.map_eq_map, Option.map_some, Option.bind_eq_bind, Option.bind_some]
  rw [ofTokens?, List.append_nil]
  rw [List.append_nil] at hparse
  rw [hparse]

/-- **Nothing but blanks may come after an object.** -/
theorem Spells.read?_append (h : Spells text (.object members)) {tail : String}
    (htail : ¬ Blank tail.toList) : Json.read? (text ++ tail) = none := by
  obtain ⟨fuel, -, hscan⟩ := h.scan_append tail.toList
  rw [Json.read?, String.toList_append, hscan]
  rcases hrest : scanAll fuel tail.toList with _ | _ | ⟨token, rest⟩
  · rfl
  · exact absurd hrest (scanAll_ne_nil htail fuel)
  · have hparse := (Json.object members).parsable
      (2 * (words (.object members) ++ token :: rest).length + 1) (token :: rest)
      (by simp only [List.length_append]; omega)
    simp only [Option.map_eq_map, Option.map_some, Option.bind_eq_bind, Option.bind_some]
    rw [ofTokens?, hparse]

end Objects

end HandleBridge.Json
