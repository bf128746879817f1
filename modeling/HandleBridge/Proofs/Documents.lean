import HandleBridge.Proofs.Grammar
import HandleBridge.Proofs.RoundTrip
import Mathlib.Data.List.Nodup
import Mathlib.Data.List.Perm.Subperm

/-!
# Proofs/Documents — configuration documents that are not as they were written

A document may leave members out, give them in any order, spell them in any way and hold others
that nobody knows.  The reader looks each declared member up by its name, so all that counts is
which members have that name (`Json.Slots.read`): one gives its value, none leaves the default, and
two are refused, as is a value of another type.
-/

namespace HandleBridge

open Json

namespace Json.Slots

variable {α : Type} {members members' : List (String × Json)} {name : String} {j : Json}

/-! ## Looking a member up -/

/-- What is found depends on the members of that name, in any order. -/
theorem find?_perm
    (h : (members.filter (·.1 = name)).Perm (members'.filter (·.1 = name))) :
    find? members name = find? members' name := by
  rw [find?, find?]
  generalize members.filter (·.1 = name) = found, members'.filter (·.1 = name) = found' at h
  rcases found with _ | ⟨m, _ | ⟨n, found⟩⟩
  · rw [List.nil_perm.1 h]
  · rw [List.singleton_perm.1 h]
  · have hlength := h.length_eq
    rcases found' with _ | ⟨m', _ | ⟨n', found'⟩⟩
    · cases hlength
    · cases hlength
    · rfl

/-- Other members do not count. -/
theorem find?_filter {names : List String} (h : name ∈ names) :
    find? (members.filter (·.1 ∈ names)) name = find? members name := by
  refine find?_perm (List.Perm.of_eq ?_)
  rw [List.filter_filter]
  refine List.filter_congr fun m _ => ?_
  by_cases hm : m.1 = name
  · simp [hm, h]
  · simp [hm]

theorem find?_of_not_mem (h : name ∉ members.map (·.1)) : find? members name = some none := by
  have hfilter : members.filter (·.1 = name) = [] :=
    List.filter_eq_nil_iff.2 fun m hm heq => h (List.mem_map.2 ⟨m, hm, of_decide_eq_true heq⟩)
  rw [find?, hfilter]

/-- A member that is there is found, unless there is another of its name. -/
theorem find?_of_mem_or (h : (name, j) ∈ members) :
    find? members name = some (some j) ∨ find? members name = none := by
  have hmem : (name, j) ∈ members.filter (·.1 = name) := List.mem_filter.2 ⟨h, by simp⟩
  rw [find?]
  generalize members.filter (·.1 = name) = found at hmem
  rcases found with _ | ⟨m, _ | ⟨n, found⟩⟩
  · exact absurd hmem List.not_mem_nil
  · obtain rfl := List.mem_singleton.1 hmem
    exact .inl rfl
  · exact .inr rfl

theorem find?_of_repeated (h : 1 < (members.map (·.1)).count name) : find? members name = none := by
  have hcount : (members.map (·.1)).count name = (members.filter (·.1 = name)).length := by
    rw [List.count, List.countP_map, List.countP_eq_length_filter]
    rfl
  rw [hcount] at h
  rw [find?]
  generalize members.filter (·.1 = name) = found at h
  rcases found with _ | ⟨m, _ | ⟨n, found⟩⟩
  · exact absurd h (Nat.not_lt_zero 1)
  · exact absurd h (Nat.lt_irrefl 1)
  · rfl

/-- **Some of the members of a record are found**, in any order and among others. -/
theorem find?_of_subperm {all : List (String × Json)} {names : List String}
    (hnodup : (all.map (·.1)).Nodup) (h : (members.filter (·.1 ∈ names)).Subperm all)
    (hname : name ∈ names) (hj : (name, j) ∈ all) :
    find? members name = some (if name ∈ members.map (·.1) then some j else none) := by
  rw [← find?_filter hname]
  split
  · rename_i hpresent
    obtain ⟨m, hm, rfl⟩ := List.mem_map.1 hpresent
    have hmem : m ∈ members.filter (·.1 ∈ names) := List.mem_filter.2 ⟨hm, by simpa using hname⟩
    obtain ⟨found, hperm, hsublist⟩ := h
    have hfound : ((members.filter (·.1 ∈ names)).map (·.1)).Nodup :=
      (hperm.map _).nodup_iff.1 (hnodup.sublist (hsublist.map _))
    have hsame : m = (m.1, j) :=
      List.inj_on_of_nodup_map hnodup (hsublist.subset (hperm.mem_iff.2 hmem)) hj rfl
    rw [find?_of_mem hfound hmem]
    exact congrArg (some ∘ some ∘ Prod.snd) hsame
  · rename_i habsent
    refine find?_of_not_mem fun hmem => habsent ?_
    exact (List.filter_sublist.map _).subset hmem

/-! ## Reading a member -/

/-- A member of a record, looked up and read. -/
def read (members : List (String × Json)) (name : String) (place : Option Json → Option α) :
    Option α := (find? members name).bind place

theorem read_of_mem {place : Option Json → Option α} (h : (name, j) ∈ members)
    (hj : place (some j) = none) : read members name place = none := by
  rcases find?_of_mem_or h with hfind | hfind <;> rw [read, hfind]
  · exact hj
  · rfl

theorem read_of_repeated (h : 1 < (members.map (·.1)).count name)
    (place : Option Json → Option α) : read members name place = none := by
  rw [read, find?_of_repeated h]
  rfl

theorem read_perm {names : List String} (hname : name ∈ names)
    (h : (members.filter (·.1 ∈ names)).Perm (members'.filter (·.1 ∈ names)))
    (place : Option Json → Option α) : read members name place = read members' name place := by
  have hfilter (members : List (String × Json)) :
      find? (members.filter (·.1 ∈ names)) name = find? members name := find?_filter hname
  rw [read, read, ← hfilter members, ← hfilter members', find?_perm (h.filter _)]

/-- A member of a record is read, or left out and given a default. -/
theorem read_of_subperm {all : List (String × Json)} {names : List String}
    (hnodup : (all.map (·.1)).Nodup) (h : (members.filter (·.1 ∈ names)).Subperm all)
    (hname : name ∈ names) (hmem : (name, j) ∈ all) {place : Option Json → Option α} {a d : α}
    (hj : place (some j) = some a) (hd : place none = some d) :
    read members name place = some (if name ∈ members.map (·.1) then a else d) := by
  rw [read, find?_of_subperm hnodup h hname hmem]
  split
  · exact hj
  · exact hd

end Json.Slots

namespace Json.Reader

/-- A value that is no integer within the bound is refused. -/
theorem natural_eq_none {bound : Nat} {j : Json} (h : ∀ n : Nat, n < bound → j ≠ .integer n) :
    natural bound j = none := by
  cases j with
  | integer i =>
    refine if_neg fun hbounds => h i.toNat (by omega) ?_
    rw [Int.toNat_of_nonneg hbounds.1]
  | _ => rfl

/-- A value that is neither a text nor missing is refused. -/
theorem optional_text_eq_none {j : Json} (hnull : j ≠ .null) (h : ∀ s, j ≠ .text s) :
    Slots.optional text (some j) = none := by
  cases j with
  | null => exact absurd rfl hnull
  | string s =>
    cases s with
    | none => rfl
    | some s => exact absurd rfl (h s)
  | _ => rfl

end Json.Reader

namespace Config

/-! ## Configurations -/

/-- The members of the JSON form. -/
def members (c : Config) : List (String × Json) :=
  [("library_path", Diagnostic.nullableJson .text c.libraryPath),
   ("log_filters", Diagnostic.nullableJson .text c.logFilters),
   ("log_file", Diagnostic.nullableJson .text c.logFile),
   ("region_capacity", .integer c.regionCapacity)]

example (c : Config) : c.toJson = .record c.members := rfl

/-- A configuration with only the named members, and the defaults for the others. -/
def restrict (c : Config) (names : List String) : Config where
  libraryPath := if "library_path" ∈ names then c.libraryPath else default.libraryPath
  logFilters := if "log_filters" ∈ names then c.logFilters else default.logFilters
  logFile := if "log_file" ∈ names then c.logFile else default.logFile
  regionCapacity := if "region_capacity" ∈ names then c.regionCapacity else default.regionCapacity

/-- Each member is looked up and read for itself. -/
theorem reader_record (members : List (String × Json)) :
    reader (.record members) = do
      return {
        libraryPath := ← Slots.read members "library_path" (Slots.optional Reader.text)
        logFilters := ← Slots.read members "log_filters" (Slots.optional Reader.text)
        logFile := ← Slots.read members "log_file" (Slots.optional Reader.text)
        regionCapacity := ← Slots.read members "region_capacity"
          (Slots.withDefault (Reader.natural UInt64.size) defaultRegionCapacity) } := by
  rw [reader, Slots.of?_members]
  simp only [memberNames, List.mapM_cons, List.mapM_nil, Slots.read]
  rcases Slots.find? members "library_path" with _ | path <;>
    rcases Slots.find? members "log_filters" with _ | filters <;>
    rcases Slots.find? members "log_file" with _ | file <;>
    rcases Slots.find? members "region_capacity" with _ | capacity <;> simp

/-- **Some of the members of a configuration are read as the configuration with only these.** -/
theorem reader_restrict {c : Config} (hvalid : c.Valid) {members : List (String × Json)}
    (h : (members.filter (·.1 ∈ memberNames)).Subperm c.members) :
    reader (.record members) = some (c.restrict (members.map (·.1))) := by
  have hnodup : (c.members.map (·.1)).Nodup := nodup_memberNames
  have htext {name : String} {s : Option String} (hname : name ∈ memberNames)
      (hmem : (name, Diagnostic.nullableJson .text s) ∈ c.members) :
      Slots.read members name (Slots.optional Reader.text) =
        some (if name ∈ members.map (·.1) then s else none) :=
    Slots.read_of_subperm hnodup h hname hmem (Diagnostic.optional_text s) rfl
  have hpath := htext (s := c.libraryPath) (.head _) (.head _)
  have hfilters := htext (s := c.logFilters) (.tail _ (.head _)) (.tail _ (.head _))
  have hfile := htext (s := c.logFile) (.tail _ (.tail _ (.head _))) (.tail _ (.tail _ (.head _)))
  have hcapacity := Slots.read_of_subperm hnodup h (.tail _ (.tail _ (.tail _ (.head _))))
    (.tail _ (.tail _ (.tail _ (.head _))))
    (Slots.withDefault_of_reader (Reader.natural_integer hvalid) defaultRegionCapacity) rfl
  rw [reader_record, hpath, hfilters, hfile, hcapacity]
  rfl

/-- What one of the members is refused for, the document is. -/
theorem reader_of_text {members : List (String × Json)} {name : String} (hname : name ∈ memberNames)
    (hcapacity : name ≠ "region_capacity")
    (h : Slots.read members name (Slots.optional Reader.text) = none) :
    reader (.record members) = none := by
  rw [reader_record]
  simp only [memberNames, List.mem_cons, List.not_mem_nil, or_false] at hname
  rcases hname with rfl | rfl | rfl | rfl
  · simp [h]
  · simp [h]
  · simp [h]
  · exact absurd rfl hcapacity

theorem reader_of_capacity {members : List (String × Json)}
    (h : Slots.read members "region_capacity"
      (Slots.withDefault (Reader.natural UInt64.size) defaultRegionCapacity) = none) :
    reader (.record members) = none := by
  rw [reader_record, h]
  simp

theorem reader_of_repeated {members : List (String × Json)} {name : String}
    (hname : name ∈ memberNames) (h : 1 < (members.map (·.1)).count name) :
    reader (.record members) = none := by
  by_cases hcapacity : name = "region_capacity"
  · subst hcapacity
    exact reader_of_capacity (Slots.read_of_repeated h _)
  · exact reader_of_text hname hcapacity (Slots.read_of_repeated h _)

theorem reader_perm {members members' : List (String × Json)}
    (h : (members.filter (·.1 ∈ memberNames)).Perm (members'.filter (·.1 ∈ memberNames))) :
    reader (.record members) = reader (.record members') := by
  have hread {α : Type} {name : String} (hname : name ∈ memberNames)
      (place : Option Json → Option α) :
      Slots.read members name place = Slots.read members' name place :=
    Slots.read_perm hname h place
  rw [reader_record, reader_record, hread (.head _), hread (.tail _ (.head _)),
    hread (.tail _ (.tail _ (.head _))), hread (.tail _ (.tail _ (.tail _ (.head _))))]

/-! ## Documents -/

/-- Is a document refused? -/
def Refused (document : String) : Prop := ∃ text, ofJson document = .error (.config text)

theorem ofJson_of_spells {document : String} {members : List (String × Json)}
    (h : Spells document (.record members)) :
    ofJson document = match reader (.record members) with
      | some c => .ok c
      | none => .error (.config "<json>") := by
  have hread : Json.read? document = some (.record members) := h.read?
  rw [ofJson, hread]
  rfl

theorem refused_of_spells {document : String} {members : List (String × Json)}
    (h : Spells document (.record members)) (hreader : reader (.record members) = none) :
    Refused document := ⟨"<json>", by rw [ofJson_of_spells h, hreader]⟩

/-- **Partial documents.**  A document that gives some of the members of a configuration, in any
order, spelled in any way and among members with other names, is accepted for that configuration
with the defaults for the rest; neither the order nor the other members make a difference.  A
document is refused that repeats a member, gives a capacity that is no integer or out of bounds, or
gives for another member what is neither a text nor null; and so is one with more behind it than
blanks. -/
theorem ofJson_partial {document : String} {members : List (String × Json)}
    (h : Spells document (.record members)) :
    (∀ c : Config, c.Valid → (members.filter (·.1 ∈ memberNames)).Subperm c.members →
      ofJson document = .ok (c.restrict (members.map (·.1)))) ∧
    (∀ document' members', Spells document' (.record members') →
      (members.filter (·.1 ∈ memberNames)).Perm (members'.filter (·.1 ∈ memberNames)) →
      ofJson document = ofJson document') ∧
    (∀ name ∈ memberNames, 1 < (members.map (·.1)).count name → Refused document) ∧
    (∀ j, ("region_capacity", j) ∈ members →
      (∀ n : Nat, n < UInt64.size → j ≠ .integer n) → Refused document) ∧
    (∀ name ∈ memberNames, name ≠ "region_capacity" → ∀ j, (name, j) ∈ members →
      j ≠ .null → (∀ s, j ≠ .text s) → Refused document) ∧
    (∀ tail : String, ¬ Blank tail.toList → Refused (document ++ tail)) := by
  refine ⟨fun c hvalid hknown => ?_, fun document' members' h' hperm => ?_,
    fun name hname hrepeated => ?_, fun j hj hcapacity => ?_,
    fun name hname hne j hj hnull htext => ?_, fun tail htail => ⟨"<json>", ?_⟩⟩
  · rw [ofJson_of_spells h, reader_restrict hvalid hknown]
  · rw [ofJson_of_spells h, ofJson_of_spells h', reader_perm hperm]
  · exact refused_of_spells h (reader_of_repeated hname hrepeated)
  · exact refused_of_spells h
      (reader_of_capacity (Slots.read_of_mem hj (Reader.natural_eq_none hcapacity)))
  · exact refused_of_spells h
      (reader_of_text hname hne (Slots.read_of_mem hj (Reader.optional_text_eq_none hnull htext)))
  · have hread : Json.read? (document ++ tail) = none := h.read?_append htail
    rw [ofJson, hread]
    rfl

/-- An unknown member with a number in it, a known member, and blanks. -/
theorem ofJson_partial_of_unknown :
    let document := "\x7b\"x\":[-1e3] ,\n\"region_capacity\":8192\x7d"
    ofJson document = .ok ⟨none, none, none, 8192⟩ ∧ Refused (document ++ "x") := by
  intro document
  let name := ['r', 'e', 'g', 'i', 'o', 'n', '_', 'c', 'a', 'p', 'a', 'c', 'i', 't', 'y']
  let members : List (String × Json) :=
    [("x", .array [.real ['-', '1', 'e', '3']]), (String.ofList name, .integer 8192)]
  have hx : SpellsWord ('"' :: (['x'] ++ ['"'])) (.string (some "x")) :=
    spellsWord_text (by simp)
  have hname : SpellsWord ('"' :: (name ++ ['"'])) (.string (some (String.ofList name))) :=
    spellsWord_text (by simp [name])
  have hreal : SpellsNumber ['-', '1', 'e', '3'] (.real ['-', '1', 'e', '3']) :=
    @SpellsNumber.real true ['1'] [] ['e', '3'] (by simp [AllDigits]) rfl .absent
      (@Exponent.digits 'e' [] ['3'] (.inl rfl) (.inl rfl) nofun (by simp [AllDigits]))
      (.inr (.inl nofun))
  have hinteger : SpellsNumber ['8', '1', '9', '2'] (.integer 8192) :=
    @SpellsNumber.integer false ['8', '1', '9', '2'] (by simp [AllDigits]) rfl nofun
  have hspells : Spells document (.record members) := by
    have hdocument : document.toList = '{' :: (('"' :: (['x'] ++ ['"'])) ++ ':' :: '[' ::
      (['-', '1', 'e', '3'] ++ ']' :: ' ' :: ',' :: '\n' :: (('"' :: (name ++ ['"'])) ++ ':' ::
        (['8', '1', '9', '2'] ++ ['}'])))) := by decide
    rw [Spells, hdocument]
    refine .mark (by decide) (.next hx (.mark (by decide) (.mark (by decide) ?_)))
    refine .next (.number hreal) (.mark (by decide) (.space rfl (.mark (by decide) ?_)))
    refine .space rfl (.next hname (.mark (by decide) (.next (.number hinteger) ?_)))
    exact .mark (by decide) (.done (List.forall_mem_nil _))
  obtain ⟨haccepted, -, -, -, -, htail⟩ := ofJson_partial hspells
  refine ⟨haccepted ⟨none, none, none, 8192⟩ ?_ ?_, htail "x" ?_⟩
  · exact (by decide : 8192 < UInt64.size)
  · have hknown : members.filter (·.1 ∈ memberNames) = [("region_capacity", .integer 8192)] := rfl
    rw [hknown]
    exact List.singleton_subperm_iff.2 (.tail _ (.tail _ (.tail _ (.head _))))
  · exact fun h => absurd (h 'x' (by decide)) (by decide)

end Config

end HandleBridge
