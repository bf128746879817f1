import HandleBridge.Proofs.Scanning

/-!
# Proofs/Parsing — a value that was written is read as itself

Parsing the words of a value gives the value back, whatever words follow (`Json.parseValue_words`).
A value takes less than two units of fuel for each of its words, which is what the reader has.
Together with the scanner this is `Json.Plain.read?_compact`: every value reads back from its
compact text, unless some part of it is a number that was spelled out.
-/

namespace HandleBridge.Json

/-! ## Words and fuel -/

/-- Is a value parsed from its words, whatever follows them? -/
def Parsable (j : Json) : Prop :=
  ∀ fuel rest, 2 * j.words.length ≤ fuel + 1 → parseValue fuel (j.words ++ rest) = some (j, rest)

theorem words_length_pos (j : Json) : 0 < j.words.length := by
  cases j <;> simp [words]

/-- No value begins with a closing bracket. -/
theorem words_head (j : Json) :
    ∃ token tail, j.words = token :: tail ∧ token ≠ .rightBracket := by
  cases j <;> exact ⟨_, _, rfl, nofun⟩

theorem elementWords_head {elements : List Json} (h : elements ≠ []) :
    ∃ token tail, elementWords elements = token :: tail ∧ token ≠ .rightBracket := by
  rcases elements with _ | ⟨value, _ | ⟨next, elements⟩⟩
  · exact absurd rfl h
  · exact words_head value
  · obtain ⟨token, tail, heq, hne⟩ := words_head value
    rw [elementWords, heq]
    · exact ⟨_, _, rfl, hne⟩
    · simp

theorem memberWords_head {members : List (Option String × Json)} (h : members ≠ []) :
    ∃ name tail, memberWords members = .string name :: tail := by
  rcases members with _ | ⟨⟨name, value⟩, _ | ⟨next, members⟩⟩
  · exact absurd rfl h
  · exact ⟨_, _, rfl⟩
  · rw [memberWords]
    · exact ⟨_, _, rfl⟩
    · simp

/-! ## Elements and members -/

theorem parseElements_words {elements : List Json} (h : ∀ j ∈ elements, Parsable j)
    (hne : elements ≠ []) (fuel : Nat) (rest : List Token)
    (hfuel : 2 * (elementWords elements).length ≤ fuel) :
    parseElements fuel (elementWords elements ++ .rightBracket :: rest) =
      some (elements, rest) := by
  induction elements generalizing fuel with
  | nil => exact absurd rfl hne
  | cons value elements ih =>
    have hvalue := h value List.mem_cons_self
    have hpos := words_length_pos value
    cases elements with
    | nil =>
      rw [elementWords] at hfuel ⊢
      obtain ⟨fuel, rfl⟩ := Nat.exists_eq_add_one_of_ne_zero (n := fuel) (by omega)
      rw [parseElements, hvalue fuel _ hfuel]
      rfl
    | cons next elements =>
      have hrest := ih (fun j hj => h j (List.mem_cons_of_mem _ hj)) (List.cons_ne_nil _ _)
      rw [elementWords] at hfuel ⊢
      · rw [List.length_append, List.length_cons] at hfuel
        obtain ⟨fuel, rfl⟩ := Nat.exists_eq_add_one_of_ne_zero (n := fuel) (by omega)
        rw [parseElements, List.append_assoc, hvalue fuel _ (by omega)]
        simp only [Option.bind_eq_bind, Option.bind_some, List.cons_append]
        rw [hrest fuel (by omega)]
        rfl
      all_goals simp

theorem parseMembers_words {members : List (Option String × Json)}
    (h : ∀ m ∈ members, Parsable m.2) (hne : members ≠ []) (fuel : Nat) (rest : List Token)
    (hfuel : 2 * (memberWords members).length ≤ fuel) :
    parseMembers fuel (memberWords members ++ .rightBrace :: rest) = some (members, rest) := by
  induction members generalizing fuel with
  | nil => exact absurd rfl hne
  | cons member members ih =>
    obtain ⟨name, value⟩ := member
    have hvalue : Parsable value := h (name, value) List.mem_cons_self
    have hpos := words_length_pos value
    cases members with
    | nil =>
      rw [memberWords] at hfuel ⊢
      simp only [List.length_cons] at hfuel
      obtain ⟨fuel, rfl⟩ := Nat.exists_eq_add_one_of_ne_zero (n := fuel) (by omega)
      rw [List.cons_append, List.cons_append, parseMembers]
      simp only [Option.bind_eq_bind]
      rw [hvalue fuel _ (by omega)]
      rfl
    | cons next members =>
      have hrest := ih (fun m hm => h m (List.mem_cons_of_mem _ hm)) (List.cons_ne_nil _ _)
      rw [memberWords] at hfuel ⊢
      · simp only [List.length_cons, List.length_append] at hfuel
        obtain ⟨fuel, rfl⟩ := Nat.exists_eq_add_one_of_ne_zero (n := fuel) (by omega)
        rw [List.cons_append, List.cons_append, List.append_assoc, parseMembers]
        simp only [Option.bind_eq_bind]
        rw [hvalue fuel _ (by omega)]
        simp only [Option.bind_some, List.cons_append]
        rw [hrest fuel (by omega)]
        rfl
      all_goals simp

/-! ## Values -/

/-- What is true of an array and of an object as soon as it is true of all their parts is true of
every value. -/
theorem induction_parts {P : Json → Prop}
    (array : ∀ elements, (∀ j ∈ elements, P j) → P (.array elements))
    (object : ∀ members, (∀ m ∈ members, P m.2) → P (.object members))
    (word : ∀ j, (∀ elements, j ≠ .array elements) → (∀ members, j ≠ .object members) → P j)
    (j : Json) : P j :=
  @Json.rec P (fun elements => ∀ j ∈ elements, P j) (fun members => ∀ m ∈ members, P m.2)
    (fun m => P m.2) (word _ nofun nofun) (fun _ => word _ nofun nofun)
    (fun _ => word _ nofun nofun) (fun _ => word _ nofun nofun) (fun _ => word _ nofun nofun)
    array object (List.forall_mem_nil _) (fun _ _ h hs => List.forall_mem_cons.2 ⟨h, hs⟩)
    (List.forall_mem_nil _) (fun _ _ h hs => List.forall_mem_cons.2 ⟨h, hs⟩) (fun _ _ h => h) j

/-- **A value is parsed from its words.** -/
theorem parsable (j : Json) : Parsable j := by
  induction j using induction_parts with
  | array elements ih =>
    intro fuel rest hfuel
    simp only [words, List.length_cons, List.length_append, List.length_nil] at hfuel
    obtain ⟨fuel, rfl⟩ := Nat.exists_eq_add_one_of_ne_zero (n := fuel) (by omega)
    rw [words, List.cons_append, List.append_assoc, List.singleton_append]
    rcases eq_or_ne elements [] with rfl | hne
    · rfl
    · have hparse := parseElements_words ih hne fuel rest (by omega)
      obtain ⟨token, tail, heq, hbracket⟩ := elementWords_head hne
      rw [heq, List.cons_append] at hparse ⊢
      simp only [parseValue]
      rw [hparse]
      split
      · rename_i hclose
        exact absurd (List.cons.inj hclose).1 hbracket
      · rfl
  | object members ih =>
    intro fuel rest hfuel
    simp only [words, List.length_cons, List.length_append, List.length_nil] at hfuel
    obtain ⟨fuel, rfl⟩ := Nat.exists_eq_add_one_of_ne_zero (n := fuel) (by omega)
    rw [words, List.cons_append, List.append_assoc, List.singleton_append]
    rcases eq_or_ne members [] with rfl | hne
    · rfl
    · have hparse := parseMembers_words ih hne fuel rest (by omega)
      obtain ⟨name, tail, heq⟩ := memberWords_head hne
      rw [heq, List.cons_append] at hparse ⊢
      simp only [parseValue]
      rw [hparse]
      rfl
  | word j harray hobject =>
    intro fuel rest hfuel
    have hpos := words_length_pos j
    obtain ⟨fuel, rfl⟩ := Nat.exists_eq_add_one_of_ne_zero (n := fuel) (by omega)
    cases j with
    | array elements => exact absurd rfl (harray elements)
    | object members => exact absurd rfl (hobject members)
    | _ => rfl

/-- **Every value reads back from its compact text.** -/
theorem Plain.read?_compact {j : Json} (h : j.Plain) : read? j.compact = some j := by
  have hparse := j.parsable (2 * j.words.length + 1) [] (by omega)
  rw [List.append_nil] at hparse
  rw [read?, h.scan_compact]
  simp only [Option.bind_eq_bind, Option.bind_some]
  rw [ofTokens?, hparse]

end HandleBridge.Json
