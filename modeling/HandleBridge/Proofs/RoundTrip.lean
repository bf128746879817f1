import Mathlib.Algebra.Ring.Nat
import HandleBridge.Config
import HandleBridge.Identity
import HandleBridge.Teardown
import HandleBridge.Proofs.Parsing

/-!
# Proofs/RoundTrip — serialized forms read back

Five types have a JSON form.  What is written for a value reads back as that value, and whatever
text a value was read from, the value is written as a text that reads back as it
(`Json.forms_read_back`).  The second follows from the first, because a reader gives only values
that can be written: its numbers have bounds, and the names of a map are distinct.
-/

namespace HandleBridge

namespace Json

variable {α : Type}

/-! ## Forms -/

/-- The value that a text writes. -/
def Reader.parse (reader : Reader α) (text : String) : Option α := (read? text).bind reader

/-- **Values read back**: the valid ones from the text that is written for them, and so does
whatever was read from any text. -/
structure RoundTrips (toJson : α → Json) (reader : Reader α) (Valid : α → Prop) : Prop where
  reads : ∀ a, Valid a → reader.parse (toJson a).compact = some a
  rereads : ∀ text a, reader.parse text = some a → reader.parse (toJson a).compact = some a

theorem RoundTrips.of_reader {toJson : α → Json} {reader : Reader α} {Valid : α → Prop}
    (hplain : ∀ a, (toJson a).Plain) (hreads : ∀ a, Valid a → reader (toJson a) = some a)
    (hvalid : ∀ j a, reader j = some a → Valid a) : RoundTrips toJson reader Valid := by
  have hparse (a : α) (ha : Valid a) : reader.parse (toJson a).compact = some a := by
    rw [Reader.parse, (hplain a).read?_compact]
    exact hreads a ha
  refine ⟨hparse, fun text a ha => hparse a ?_⟩
  obtain ⟨j, -, hj⟩ := Option.bind_eq_some_iff.1 ha
  exact hvalid j a hj

/-! ## Records -/

theorem plain_text (s : String) : (text s).Plain := .string _

theorem plain_record {members : List (String × Json)} (h : ∀ m ∈ members, m.2.Plain) :
    (record members).Plain := by
  refine .object fun m hm => ?_
  obtain ⟨member, hmember, rfl⟩ := List.mem_map.1 hm
  exact h member hmember

theorem plain_fields {names : List String} {values : List Json} (h : ∀ j ∈ values, j.Plain) :
    (record (names.zip values)).Plain :=
  plain_record fun m hm => h m.2 (List.of_mem_zip (a := m.1) (b := m.2) hm).2

namespace Slots

/-- Members with distinct names are found by their names. -/
theorem find?_of_mem {members : List (String × Json)} (hnodup : (members.map (·.1)).Nodup)
    {m : String × Json} (hm : m ∈ members) : find? members m.1 = some (some m.2) := by
  have hfilter : members.filter (·.1 = m.1) = [m] := by
    induction members with
    | nil => exact absurd hm List.not_mem_nil
    | cons first members ih =>
      obtain ⟨hfirst, hrest⟩ := List.nodup_cons.1 hnodup
      rcases List.mem_cons.1 hm with rfl | hm
      · rw [List.filter_cons_of_pos (by simp), List.filter_eq_nil_iff.2]
        intro other hother heq
        exact hfirst (List.mem_map.2 ⟨other, hother, of_decide_eq_true heq⟩)
      · have hne : first.1 ≠ m.1 := fun heq => hfirst (List.mem_map.2 ⟨m, hm, heq.symm⟩)
        rw [List.filter_cons_of_neg (by simpa using hne), ih hrest hm]
  rw [find?, hfilter]

theorem mapM_find? {members : List (String × Json)} (hnodup : (members.map (·.1)).Nodup)
    {names : List String} {values : List Json} (hlength : names.length = values.length)
    (h : ∀ m ∈ names.zip values, m ∈ members) :
    names.mapM (find? members) = some (values.map some) := by
  induction names generalizing values with
  | nil =>
    obtain rfl := List.eq_nil_of_length_eq_zero hlength.symm
    rfl
  | cons name names ih =>
    rcases values with _ | ⟨value, values⟩
    · cases hlength
    · rw [List.mapM_cons, find?_of_mem hnodup (h (name, value) List.mem_cons_self),
        ih (Nat.succ.inj hlength) fun m hm => h m (List.mem_cons_of_mem _ hm)]
      rfl

/-- Every declared place is found for itself. -/
theorem of?_members (short : Bool) (names : List String) (members : List (String × Json)) :
    of? short names (record members) = names.mapM (find? members) := by
  have hmembers : (members.map fun m => (some m.1, m.2)).mapM
      (fun m : Option String × Json => m.1.map fun name => (name, m.2)) = some members := by
    induction members with
    | nil => rfl
    | cons m members ih =>
      rw [List.map_cons, List.mapM_cons, ih]
      rfl
  rw [record, of?, ofObject?, hmembers]
  rfl

/-- **A record that was written is sorted into its declared places.** -/
theorem of?_record (short : Bool) {names : List String} {values : List Json}
    (hnodup : names.Nodup) (hlength : names.length = values.length) :
    of? short names (record (names.zip values)) = some (values.map some) := by
  have hnames : ((names.zip values).map (·.1)).Nodup := by
    rwa [List.map_fst_zip (Nat.le_of_eq hlength)]
  rw [of?_members]
  exact mapM_find? hnames hlength fun _ => id

/-- A place that is filled is read.  The value is left open: to compare one reader of a number with
another is to count to the bounds of a word. -/
theorem required_of_reader {reader : Reader α} {j : Json} {a : α} (h : reader j = some a) :
    required reader (some j) = some a := h

theorem withDefault_of_reader {reader : Reader α} {j : Json} {a : α} (h : reader j = some a)
    (default : α) : withDefault reader default (some j) = some a := h

end Slots

/-! ## Fields -/

namespace Reader

theorem natural_integer {bound n : Nat} (h : n < bound) : natural bound (.integer n) = some n := by
  have hbounds : (0 : Int) ≤ n ∧ (n : Int) < bound := ⟨Int.natCast_nonneg n, Int.ofNat_lt.2 h⟩
  rw [natural, if_pos hbounds, Int.toNat_natCast]

theorem lt_of_natural {bound n : Nat} {j : Json} (h : natural bound j = some n) : n < bound := by
  cases j with
  | integer i =>
    rw [natural] at h
    split at h
    · cases h
      omega
    · cases h
  | _ => cases h

theorem unsigned32_integer (n : UInt32) : unsigned32 (.integer n.toNat) = some n := by
  rw [unsigned32, natural_integer n.toNat_lt_size]
  simp

theorem unsigned64_integer (n : UInt64) : unsigned64 (.integer n.toNat) = some n := by
  rw [unsigned64, natural_integer n.toNat_lt_size]
  simp

theorem signed32_integer (n : Int32) : signed32 (.integer n.toInt) = some n := by
  rw [signed32, if_pos ⟨n.minValue_le_toInt, n.toInt_le⟩, Int32.ofInt_toInt]

/-- Every entry of a map that was read has a value that was read. -/
theorem exists_of_members {reader : Reader α} {j : Json} {map : List (String × α)}
    (h : members reader j = some map) {e : String × α} (he : e ∈ map) :
    ∃ value, reader value = some e.2 := by
  cases j with
  | object members =>
    rw [Reader.members] at h
    induction members generalizing map with
    | nil =>
      cases h
      exact absurd he List.not_mem_nil
    | cons m members ih =>
      rw [List.mapM_cons] at h
      obtain ⟨first, hfirst, h⟩ := Option.bind_eq_some_iff.1 h
      obtain ⟨rest, hrest, h⟩ := Option.bind_eq_some_iff.1 h
      cases h
      rcases List.mem_cons.1 he with rfl | he
      · obtain ⟨name, -, hfirst⟩ := Option.bind_eq_some_iff.1 hfirst
        obtain ⟨value, hvalue, hfirst⟩ := Option.bind_eq_some_iff.1 hfirst
        cases hfirst
        exact ⟨m.2, hvalue⟩
      · exact ih he hrest
  | _ => cases h

theorem nullable_some {reader : Reader α} {j : Json} (hnull : j ≠ .null) (a : α)
    (h : reader j = some a) : nullable reader j = some (some a) := by
  cases j with
  | null => exact absurd rfl hnull
  | _ => exact congrArg (some <$> ·) h

end Reader

end Json

open Json

/-! ## Statuses, origins and diagnostics -/

theorem Status.reader_toJson (s : Status) : reader s.toJson = some s := by
  rw [reader, toJson, Reader.unsigned32_integer]
  rfl

theorem Origin.reader_toJson (o : Origin) : reader o.toJson = some o := by
  cases o <;> decide

/-- A value that may be missing is read by a reader that takes it for missing when it is null. -/
theorem Diagnostic.optional_nullableJson {α : Type} {f : α → Json} {reader : Reader α}
    (h : ∀ a, f a ≠ .null ∧ reader (f a) = some a) (a : Option α) :
    Slots.optional reader (some (nullableJson f a)) = some a := by
  cases a with
  | none => rfl
  | some a => exact Reader.nullable_some (h a).1 a (h a).2

theorem Diagnostic.plain_nullableJson {α : Type} {f : α → Json} (h : ∀ a, (f a).Plain)
    (a : Option α) : (nullableJson f a).Plain := by
  cases a with
  | none => exact .null
  | some a => exact h a

theorem Diagnostic.optional_text (s : Option String) :
    Slots.optional Reader.text (some (nullableJson .text s)) = some s :=
  optional_nullableJson (f := .text) (fun _ => ⟨Json.noConfusion, rfl⟩) s

theorem Diagnostic.optional_number (n : Option Int32) :
    Slots.optional Reader.signed32 (some (nullableJson numberJson n)) = some n :=
  optional_nullableJson (f := numberJson)
    (fun n => ⟨Json.noConfusion, Reader.signed32_integer n⟩) n

theorem Diagnostic.nodup_memberNames : memberNames.Nodup := by
  simp [memberNames]

theorem Diagnostic.plain_toJson (d : Diagnostic) : d.toJson.Plain := by
  have htext (s : Option String) : (nullableJson .text s).Plain := plain_nullableJson plain_text s
  have hnumber (n : Option Int32) : (nullableJson numberJson n).Plain :=
    plain_nullableJson (fun n => .integer _) n
  refine plain_fields fun j hj => ?_
  simp only [List.mem_cons, List.not_mem_nil, or_false] at hj
  rcases hj with rfl | rfl | rfl | rfl | rfl | rfl | rfl | rfl
  · exact .integer _
  · exact plain_text _
  · exact htext _
  · exact htext _
  · exact hnumber _
  · exact htext _
  · exact hnumber _
  · exact htext _

/-- A diagnostic is read if each of its places is. -/
theorem Diagnostic.reader_of_slots {j : Json} {d : Diagnostic}
    {rc rcType name message categoryNumber categoryText codeNumber structuredCode : Option Json}
    (h : Slots.of? false memberNames j =
      some [rc, rcType, name, message, categoryNumber, categoryText, codeNumber, structuredCode])
    (hstatus : Slots.required Status.reader rc = some d.status)
    (horigin : Slots.required Origin.reader rcType = some d.origin)
    (hname : Slots.optional Reader.text name = some d.name)
    (hmessage : Slots.optional Reader.text message = some d.message)
    (hcategory : Slots.optional Reader.signed32 categoryNumber = some d.categoryNumber)
    (htext : Slots.optional Reader.text categoryText = some d.categoryText)
    (hcode : Slots.optional Reader.signed32 codeNumber = some d.codeNumber)
    (hstructured : Slots.optional Reader.text structuredCode = some d.structuredCode) :
    reader j = some d := by
  rw [reader, h]
  simp only [Option.bind_eq_bind, Option.bind_some]
  rw [hstatus, horigin, hname, hmessage, hcategory, htext, hcode, hstructured]
  rfl

theorem Diagnostic.reader_toJson (d : Diagnostic) : reader d.toJson = some d :=
  reader_of_slots (Slots.of?_record false nodup_memberNames rfl)
    (Slots.required_of_reader d.status.reader_toJson)
    (Slots.required_of_reader d.origin.reader_toJson) (optional_text _) (optional_text _)
    (optional_number _) (optional_text _) (optional_number _) (optional_text _)

/-! ## Configurations -/

/-- Can a configuration be held?  A capacity is a word of 64 bits. -/
def Config.Valid (c : Config) : Prop := c.regionCapacity < UInt64.size

theorem Config.nodup_memberNames : memberNames.Nodup := by
  simp [memberNames]

theorem Config.plain_toJson (c : Config) : c.toJson.Plain := by
  have htext (s : Option String) : (Diagnostic.nullableJson .text s).Plain :=
    Diagnostic.plain_nullableJson plain_text s
  refine plain_fields fun j hj => ?_
  simp only [List.mem_cons, List.not_mem_nil, or_false] at hj
  rcases hj with rfl | rfl | rfl | rfl
  · exact htext _
  · exact htext _
  · exact htext _
  · exact .integer _

theorem Config.reader_of_slots {j : Json} {c : Config}
    {libraryPath logFilters logFile regionCapacity : Option Json}
    (h : Slots.of? true memberNames j = some [libraryPath, logFilters, logFile, regionCapacity])
    (hpath : Slots.optional Reader.text libraryPath = some c.libraryPath)
    (hfilters : Slots.optional Reader.text logFilters = some c.logFilters)
    (hfile : Slots.optional Reader.text logFile = some c.logFile)
    (hcapacity : Slots.withDefault (Reader.natural UInt64.size) defaultRegionCapacity
      regionCapacity = some c.regionCapacity) : reader j = some c := by
  rw [reader, h]
  simp only [Option.bind_eq_bind, Option.bind_some]
  rw [hpath, hfilters, hfile, hcapacity]
  rfl

theorem Config.reader_toJson {c : Config} (h : c.Valid) : reader c.toJson = some c :=
  reader_of_slots (Slots.of?_record true nodup_memberNames rfl) (Diagnostic.optional_text _)
    (Diagnostic.optional_text _) (Diagnostic.optional_text _)
    (Slots.withDefault_of_reader (Reader.natural_integer h) _)

theorem Config.valid_of_reader {j : Json} {c : Config} (h : reader j = some c) : c.Valid := by
  obtain ⟨slots, -, h⟩ := Option.bind_eq_some_iff.1 h
  split at h
  · rename_i libraryPath logFilters logFile regionCapacity
    obtain ⟨path, -, h⟩ := Option.bind_eq_some_iff.1 h
    obtain ⟨filters, -, h⟩ := Option.bind_eq_some_iff.1 h
    obtain ⟨file, -, h⟩ := Option.bind_eq_some_iff.1 h
    obtain ⟨capacity, hcapacity, h⟩ := Option.bind_eq_some_iff.1 h
    cases h
    cases regionCapacity with
    | none =>
      cases hcapacity
      exact (by decide : defaultRegionCapacity < UInt64.size)
    | some value => exact Reader.lt_of_natural hcapacity
  · cases h

/-! ## Teardowns -/

/-- Can an outcome be held?  Counts are words of 64 bits, and no kind is listed twice. -/
structure Teardown.Valid (t : Teardown) : Prop where
  disposed : t.disposed < UInt64.size
  errors : t.errors < UInt64.size
  bytes : t.bytes < UInt64.size
  counts : ∀ e ∈ t.byKind, e.2 < UInt64.size
  nodup : (t.byKind.map (·.1)).Nodup

namespace Teardown

theorem nodup_memberNames : memberNames.Nodup := by
  simp [memberNames]

theorem plain_toJson (t : Teardown) : t.toJson.Plain := by
  refine plain_fields fun j hj => ?_
  simp only [List.mem_cons, List.not_mem_nil, or_false] at hj
  rcases hj with rfl | rfl | rfl | rfl | rfl
  · exact .integer _
  · exact .integer _
  · exact .integer _
  · exact .integer _
  · refine plain_record fun m hm => ?_
    obtain ⟨e, -, rfl⟩ := List.mem_map.1 hm
    exact .integer _

/-- A map is read with its entries in the order in which they were written. -/
theorem members_record {bound : Nat} {map : List (String × Nat)} (h : ∀ e ∈ map, e.2 < bound) :
    Reader.members (Reader.natural bound) (.record (map.map fun e => (e.1, .integer e.2))) =
      some map := by
  rw [Json.record, Reader.members]
  induction map with
  | nil => rfl
  | cons e map ih =>
    rw [List.map_cons, List.map_cons, List.mapM_cons,
      ih fun e he => h e (List.mem_cons_of_mem _ he),
      Reader.natural_integer (h e List.mem_cons_self)]
    rfl

/-! ### Maps -/

section Maps

variable {name : String} {n : Nat} {map : List (String × Nat)}

theorem put_of_not_mem (h : name ∉ map.map (·.1)) :
    mapOf.put name n map = map ++ [(name, n)] := by
  induction map with
  | nil => rfl
  | cons e map ih =>
    obtain ⟨hne, hrest⟩ := not_or.1 (mt List.mem_cons.2 h)
    rw [mapOf.put, if_neg (Ne.symm hne), ih hrest]
    rfl

/-- A name keeps its place, or is put behind the others. -/
theorem names_put (name : String) (n : Nat) (map : List (String × Nat)) :
    (mapOf.put name n map).map (·.1) = map.map (·.1) ∨
    name ∉ map.map (·.1) ∧ (mapOf.put name n map).map (·.1) = map.map (·.1) ++ [name] := by
  by_cases h : name ∈ map.map (·.1)
  · left
    induction map with
    | nil => exact absurd h List.not_mem_nil
    | cons e map ih =>
      rw [mapOf.put]
      split
      · rfl
      · rename_i hne
        rcases List.mem_cons.1 h with heq | h
        · exact absurd heq.symm hne
        · rw [List.map_cons, List.map_cons, ih h]
  · rw [put_of_not_mem h]
    exact .inr ⟨h, by simp⟩

theorem mem_put {e : String × Nat} (h : e ∈ mapOf.put name n map) : e = (name, n) ∨ e ∈ map := by
  induction map with
  | nil => exact .inl (List.mem_singleton.1 h)
  | cons first map ih =>
    rw [mapOf.put] at h
    split at h
    · rename_i heq
      rcases List.mem_cons.1 h with rfl | h
      · exact .inl (congrArg (·, n) heq)
      · exact .inr (List.mem_cons_of_mem _ h)
    · rcases List.mem_cons.1 h with rfl | h
      · exact .inr List.mem_cons_self
      · exact (ih h).imp_right (List.mem_cons_of_mem _)

end Maps

/-- A map whose names are distinct is what it lists. -/
theorem mapOf_of_nodup {map : List (String × Nat)} (h : (map.map (·.1)).Nodup) :
    mapOf map = map := by
  suffices hfold : ∀ done : List (String × Nat), ((done ++ map).map (·.1)).Nodup →
      map.foldl (fun done m => mapOf.put m.1 m.2 done) done = done ++ map from hfold [] h
  induction map with
  | nil => exact fun done _ => (List.append_nil done).symm
  | cons e map ih =>
    intro done hdone
    have hnot : e.1 ∉ done.map (·.1) := by
      rw [List.map_append, List.map_cons] at hdone
      exact fun he => (List.nodup_append.1 hdone).2.2 _ he _ List.mem_cons_self rfl
    rw [List.append_cons] at hdone
    rw [List.foldl_cons, put_of_not_mem hnot, ih (List.nodup_cons.1 h).2 _ hdone,
      ← List.append_cons]

/-- What every step of a fold keeps is true of a map. -/
theorem mapOf_induction {P : List (String × Nat) → Prop} (start : P [])
    (members : List (String × Nat))
    (step : ∀ m ∈ members, ∀ map, P map → P (mapOf.put m.1 m.2 map)) : P (mapOf members) :=
  List.foldlRecOn members _ start fun map hmap m hm => step m hm map hmap

theorem nodup_mapOf (members : List (String × Nat)) : ((mapOf members).map (·.1)).Nodup := by
  refine mapOf_induction (P := fun map => (map.map (·.1)).Nodup) List.nodup_nil members
    fun m _ map hmap => ?_
  rcases names_put m.1 m.2 map with heq | ⟨hnot, heq⟩
  · rwa [heq]
  · rw [heq]
    exact List.nodup_append.2 ⟨hmap, by simp, fun a ha b hb heq =>
      hnot (List.mem_singleton.1 hb ▸ heq ▸ ha)⟩

theorem mem_mapOf {members : List (String × Nat)} {e : String × Nat} (h : e ∈ mapOf members) :
    e ∈ members := by
  refine mapOf_induction (P := fun map => ∀ e ∈ map, e ∈ members) (List.forall_mem_nil _) members
    (fun m hm map hmap e he => ?_) e h
  rcases mem_put he with rfl | he
  · exact hm
  · exact hmap e he

/-! ### Outcomes -/

theorem reader_of_slots {j : Json} {t : Teardown} {map : List (String × Nat)}
    {disposed errors bytes micros byKind : Option Json}
    (h : Slots.of? false memberNames j = some [disposed, errors, bytes, micros, byKind])
    (hdisposed : Slots.required (Reader.natural UInt64.size) disposed = some t.disposed)
    (herrors : Slots.required (Reader.natural UInt64.size) errors = some t.errors)
    (hbytes : Slots.required (Reader.natural UInt64.size) bytes = some t.bytes)
    (hmicros : Slots.required Reader.unsigned64 micros = some t.micros)
    (hmap : Slots.required (Reader.members (Reader.natural UInt64.size)) byKind = some map)
    (hkinds : mapOf map = t.byKind) : reader j = some t := by
  rw [reader, h]
  simp only [Option.bind_eq_bind, Option.bind_some]
  rw [hdisposed, herrors, hbytes, hmicros, hmap]
  simp only [Option.bind_some, hkinds]
  rfl

theorem reader_toJson {t : Teardown} (h : t.Valid) : reader t.toJson = some t :=
  reader_of_slots (Slots.of?_record false nodup_memberNames rfl)
    (Slots.required_of_reader (Reader.natural_integer h.disposed))
    (Slots.required_of_reader (Reader.natural_integer h.errors))
    (Slots.required_of_reader (Reader.natural_integer h.bytes))
    (Slots.required_of_reader (Reader.unsigned64_integer t.micros))
    (Slots.required_of_reader (members_record h.counts)) (mapOf_of_nodup h.nodup)

theorem valid_of_reader {j : Json} {t : Teardown} (h : reader j = some t) : t.Valid := by
  have hcount {slot : Option Json} {n : Nat}
      (hn : Slots.required (Reader.natural UInt64.size) slot = some n) : n < UInt64.size := by
    cases slot with
    | none => cases hn
    | some value => exact Reader.lt_of_natural hn
  obtain ⟨slots, -, h⟩ := Option.bind_eq_some_iff.1 h
  split at h
  · rename_i disposedSlot errorsSlot bytesSlot microsSlot byKind
    obtain ⟨disposed, hdisposed, h⟩ := Option.bind_eq_some_iff.1 h
    obtain ⟨errors, herrors, h⟩ := Option.bind_eq_some_iff.1 h
    obtain ⟨bytes, hbytes, h⟩ := Option.bind_eq_some_iff.1 h
    obtain ⟨micros, -, h⟩ := Option.bind_eq_some_iff.1 h
    obtain ⟨map, hmap, h⟩ := Option.bind_eq_some_iff.1 h
    cases h
    refine ⟨hcount hdisposed, hcount herrors, hcount hbytes, fun e he => ?_, nodup_mapOf map⟩
    cases byKind with
    | none => cases hmap
    | some members =>
      obtain ⟨value, hvalue⟩ := Reader.exists_of_members hmap (mem_mapOf he)
      exact Reader.lt_of_natural hvalue
  · cases h

end Teardown

/-! ## Identifiers -/

namespace Identity

theorem unhyphenate?_hyphenate {groups : List Nat} (hne : groups ≠ []) {digits : List Char}
    (h : digits.length = groups.sum) :
    unhyphenate? groups (hyphenate groups digits) = some digits := by
  induction groups generalizing digits with
  | nil => exact absurd rfl hne
  | cons n groups ih =>
    cases groups with
    | nil =>
      rw [hyphenate, unhyphenate?, if_pos (by simpa using h)]
    | cons next groups =>
      rw [List.sum_cons] at h
      have hn : (digits.take n).length = n :=
        List.length_take_of_le (h ▸ Nat.le_add_right _ _)
      have hrest : unhyphenate? (next :: groups) (hyphenate (next :: groups) (digits.drop n)) =
          some (digits.drop n) :=
        ih (List.cons_ne_nil _ _) (by rw [List.length_drop, h, Nat.add_sub_cancel_left])
      rw [hyphenate, unhyphenate?, List.drop_left' hn, List.take_left' hn]
      · exact (congrArg ((digits.take n ++ ·) <$> ·) hrest).trans
          (congrArg some (List.take_append_drop n digits))
      all_goals simp

theorem length_hyphenate {groups : List Nat} (hne : groups ≠ []) {digits : List Char}
    (h : digits.length = groups.sum) :
    (hyphenate groups digits).length + 1 = groups.sum + groups.length := by
  induction groups generalizing digits with
  | nil => exact absurd rfl hne
  | cons n groups ih =>
    cases groups with
    | nil => simpa [hyphenate] using h
    | cons next groups =>
      rw [List.sum_cons] at h
      have hn : (digits.take n).length = n :=
        List.length_take_of_le (h ▸ Nat.le_add_right _ _)
      have hrest : (hyphenate (next :: groups) (digits.drop n)).length + 1 =
          (next :: groups).sum + (next :: groups).length :=
        ih (List.cons_ne_nil _ _) (by rw [List.length_drop, h, Nat.add_sub_cancel_left])
      rw [hyphenate, List.length_append, hn, List.length_cons, List.sum_cons, List.length_cons]
      · omega
      · simp

theorem unwrap_digit {n : Nat} (h : n < 16) (rest : List Char) :
    unwrap (Hex.digit n :: rest) = Hex.digit n :: rest := by
  have hdigit : ∀ n < 16, Hex.digit n ≠ '{' ∧ (Hex.digit n).toLower ≠ 'u' := by decide
  obtain ⟨hbrace, hletter⟩ := hdigit n h
  rw [unwrap, if_neg]
  · intro heq
    exact hletter (Option.some.inj (congrArg List.head? heq))
  · exact fun _ heq => hbrace (List.cons.inj heq).1

/-- **An identifier reads back from its written form.** -/
theorem ofText?_text (id : Identity) : ofText? id.text = some id := by
  have hlength : (Hex.fixed 32 id.value).length = 32 := Hex.length_fixed 32 _
  have hdigits : ofDigits? (Hex.fixed 32 id.value) = some id := by
    rw [ofDigits?, if_neg (not_not_intro hlength), Hex.value?_fixed id.value_lt]
    exact dif_pos id.value_lt
  have hread : unhyphenate? groups (hyphenate groups (Hex.fixed 32 id.value)) = _ :=
    unhyphenate?_hyphenate (List.cons_ne_nil _ _) hlength
  have hlonger : (hyphenate groups (Hex.fixed 32 id.value)).length + 1 = 37 :=
    length_hyphenate (List.cons_ne_nil _ _) hlength
  -- The text begins with a digit, so it is taken for no other form.
  have hunwrap : unwrap (hyphenate groups (Hex.fixed 32 id.value)) =
      hyphenate groups (Hex.fixed 32 id.value) := by
    obtain ⟨c, tail, hcons⟩ := List.exists_cons_of_length_eq_add_one hlength
    obtain ⟨k, hk, rfl⟩ := Hex.mem_fixed (hcons ▸ List.mem_cons_self)
    rw [hcons]
    exact unwrap_digit hk _
  rw [ofText?, text, String.toList_ofList, hunwrap, if_neg (by omega), hread, Option.bind_some,
    hdigits]

theorem reader_toJson (id : Identity) : reader id.toJson = some id := by
  rw [reader, toJson, Json.text, Reader.text, Option.bind_some, ofText?_text]

end Identity

/-! ## All of them -/

/-- **Serialized forms read back**: diagnostics, outcomes of teardowns, configurations, statuses and
identifiers.  Every string may have any characters.  The kinds of an outcome may be listed in any
order, and are read in that order. -/
theorem Json.forms_read_back :
    RoundTrips Diagnostic.toJson Diagnostic.reader (fun _ => True) ∧
    RoundTrips Teardown.toJson Teardown.reader Teardown.Valid ∧
    RoundTrips Config.toJson Config.reader Config.Valid ∧
    RoundTrips Status.toJson Status.reader (fun _ => True) ∧
    RoundTrips Identity.toJson Identity.reader (fun _ => True) :=
  ⟨.of_reader Diagnostic.plain_toJson (fun d _ => d.reader_toJson) fun _ _ _ => trivial,
    .of_reader Teardown.plain_toJson (fun _ => Teardown.reader_toJson) fun _ _ =>
      Teardown.valid_of_reader,
    .of_reader Config.plain_toJson (fun _ => Config.reader_toJson) fun _ _ =>
      Config.valid_of_reader,
    .of_reader (fun _ => .integer _) (fun s _ => s.reader_toJson) fun _ _ _ => trivial,
    .of_reader (fun _ => plain_text _) (fun id _ => id.reader_toJson) fun _ _ _ => trivial⟩

/-- Quotes, backslashes, control characters, a character beyond sixteen bits, and numbers at their
bounds. -/
theorem Json.forms_read_back_of_escapes :
    let d : Diagnostic := ⟨⟨0xFFFFFFFF⟩, .client, none, some "\"\\/\x00\x1f\n𝄞", some (-2147483648),
      some "", some 2147483647, none⟩
    let t : Teardown := ⟨18446744073709551615, 0, 4096, 1, [("job", 2), ("\t", 1)]⟩
    let c : Config := ⟨some "/opt/\"lib\".so", none, some "", 18446744073709551615⟩
    Diagnostic.reader.parse d.toJson.compact = some d ∧
      Teardown.reader.parse t.toJson.compact = some t ∧
      Config.reader.parse c.toJson.compact = some c := by
  intro d t c
  obtain ⟨hd, ht, hc, -, -⟩ := Json.forms_read_back
  refine ⟨hd.reads d trivial, ht.reads t ⟨?_, ?_, ?_, ?_, ?_⟩, hc.reads c ?_⟩
  · exact (by decide : 18446744073709551615 < UInt64.size)
  · exact (by decide : 0 < UInt64.size)
  · exact (by decide : 4096 < UInt64.size)
  · exact (by decide : ∀ e ∈ [("job", 2), ("\t", 1)], e.2 < UInt64.size)
  · exact (by decide : ["job", "\t"].Nodup)
  · exact (by decide : 18446744073709551615 < UInt64.size)

end HandleBridge
