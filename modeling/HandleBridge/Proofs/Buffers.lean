import HandleBridge.Proofs.Surrendering
import HandleBridge.Proofs.Spelling
import Mathlib.Data.List.Forall2

/-!
# Proofs/Buffers — a buffer holds what was put into it

Whoever is handed a buffer finds in it what it was taken for, and later on finds there what it was
overwritten with through that buffer, and nothing else: `Run.contents` follows one buffer through a
run and looks at no other.  That is what scratch memory holds (`Run.buffers_hold`), because handed
out buffers lie apart from each other and from the strings that an array points to, and because no
call writes to cells that were there before it (`Operation.retains`).
-/

namespace HandleBridge

open HandleBridge.Action

variable {σ α : Type}

/-! ## Stretches of memory -/

/-- Two stretches of cells have no cell in common. -/
def Buffer.Apart (b b' : Buffer) : Prop :=
  b.start + b.length ≤ b'.start ∨ b'.start + b'.length ≤ b.start

namespace Scratch

variable {s s' : Scratch} {b b' : Buffer} {cells : List Cell} {cell : Cell} {offset : Nat}

/-- Does a buffer hold certain cells, none of which was freed? -/
structure Holds (s : Scratch) (b : Buffer) (cells : List Cell) : Prop where
  inside : b.start + b.length ≤ s.slots.length
  length : cells.length = b.length
  cell : ∀ i c, cells[i]? = some c → s.slots[b.start + i]? = some (.ofCell b.region c)

theorem Holds.stretch (h : s.Holds b cells) :
    (s.slots.drop b.start).take b.length = cells.map (.ofCell b.region) := by
  refine List.ext_getElem? fun i => ?_
  rw [List.getElem?_take, List.getElem?_drop, List.getElem?_map, ← h.length]
  split
  · rename_i hi
    rw [h.cell i _ (List.getElem?_eq_getElem hi), List.getElem?_eq_getElem hi]
    rfl
  · rename_i hi
    rw [List.getElem?_eq_none (Nat.le_of_not_lt hi)]
    rfl

/-- **What a buffer holds is what is read.** -/
theorem Holds.slice (h : s.Holds b cells) : s.slice b = cells := by
  rw [Scratch.slice, h.stretch, List.filterMap_map]
  exact List.filterMap_some

/-- Memory that keeps the cells of a region keeps what the buffers in it hold. -/
theorem Holds.keep (h : s.Holds b cells) (hlength : s.slots.length ≤ s'.slots.length)
    (hkeep : ∀ (i : Nat) (slot : Slot), s.slots[i]? = some slot → slot.region = b.region →
      s'.slots[i]? = some slot) : s'.Holds b cells where
  inside := Nat.le_trans h.inside hlength
  length := h.length
  cell i c hc := hkeep _ _ (h.cell i c hc) rfl

theorem Grown.getElem? (h : Grown s s') {i : Nat} {slot : Slot} (hslot : s.slots[i]? = some slot) :
    s'.slots[i]? = some slot := by
  obtain ⟨rest, heq⟩ := h.slots
  rw [← heq, List.getElem?_append_left (List.getElem?_eq_some_iff.1 hslot).1, hslot]

theorem Holds.grow (h : s.Holds b cells) (hs : Grown s s') : s'.Holds b cells :=
  h.keep hs.slots.length_le fun _ _ hslot _ => hs.getElem? hslot

theorem holds_allocate (s : Scratch) (m : Manager) (cells : List Cell) :
    (s.allocate m cells).2.Holds (s.allocate m cells).1 cells where
  inside := by simp [allocate]
  length := rfl
  cell i c hc := by
    rw [allocate, List.getElem?_append_right (Nat.le_add_right _ _), Nat.add_sub_cancel_left,
      List.getElem?_map, hc]
    rfl

theorem length_write : (s.write b offset cell).slots.length = s.slots.length := by
  rw [write]
  split
  · exact List.length_modify _ _ _
  · rfl

/-- A write through a buffer sets a cell of the buffer. -/
theorem Holds.write_self (h : s.Holds b cells) (offset : Nat) (cell : Cell) :
    (s.write b offset cell).Holds b (cells.set offset cell) where
  inside := length_write.symm ▸ h.inside
  length := List.length_set.trans h.length
  cell i c hc := by
    rw [write]
    by_cases hi : offset = i
    · subst hi
      have hoffset : offset < cells.length := by
        rw [← List.length_set (i := offset) (a := cell)]
        exact (List.getElem?_eq_some_iff.1 hc).1
      obtain rfl : cell = c := by
        rw [List.getElem?_set_self hoffset] at hc
        exact Option.some.inj hc
      rw [if_pos (h.length ▸ hoffset)]
      refine (List.getElem?_modify_eq ..).trans ?_
      rw [h.cell _ _ (List.getElem?_eq_getElem hoffset)]
      rfl
    · rw [List.getElem?_set_ne hi] at hc
      split
      · refine (List.getElem?_modify_ne _ _ (by omega)).trans (h.cell i c hc)
      · exact h.cell i c hc

/-- It sets no cell that is apart from the buffer. -/
theorem Holds.write_of_apart (h : s.Holds b cells) (happart : b.Apart b') (offset : Nat)
    (cell : Cell) : (s.write b' offset cell).Holds b cells where
  inside := length_write.symm ▸ h.inside
  length := h.length
  cell i c hc := by
    have hi : i < b.length := h.length ▸ (List.getElem?_eq_some_iff.1 hc).1
    rw [write]
    split
    · refine (List.getElem?_modify_ne _ _ ?_).trans (h.cell i c hc)
      obtain happart | happart := happart <;> omega
    · exact h.cell i c hc

/-! ### Strings -/

/-- The stretch that a text takes when it is spelled at a place. -/
def stretch (region : Manager) (place : Nat) (text : String) : Buffer :=
  ⟨region, place, (spell text).length⟩

/-- Is a text spelled at a place, with a zero byte only at the end? -/
structure Spells (s : Scratch) (region : Manager) (place : Nat) (text : String) : Prop where
  spellable : CString.spellable text = true
  holds : s.Holds (stretch region place text) (spell text)

/-- **Bytes read as a string up to the first zero byte**, whatever comes behind it. -/
theorem textAt_of_holds {bytes : List UInt8} (h : s.Holds b (bytes.map .byte)) (hzero : 0 ∈ bytes) :
    s.textAt b.start = CString.read bytes := by
  have hdrop : s.slots.drop b.start =
      (bytes.map Cell.byte).map (Slot.ofCell b.region) ++ (s.slots.drop b.start).drop b.length := by
    rw [← h.stretch, List.take_append_drop]
  have hread : ((bytes.map Cell.byte).map (Slot.ofCell b.region)).map (·.cell.bind byte?) =
      bytes.map some := by
    rw [List.map_map, List.map_map]
    rfl
  obtain ⟨rest, hrest⟩ : ∃ rest, s.bytesAt b.start = bytes ++ rest := by
    rw [bytesAt, hdrop, List.map_append, hread, List.takeWhile_append_of_pos,
      List.filterMap_append, List.filterMap_map]
    · exact ⟨_, congrArg (· ++ _) List.filterMap_some⟩
    · intro x hx
      obtain ⟨byte, -, rfl⟩ := List.mem_map.1 hx
      rfl
  rw [textAt, CString.read, hrest, List.takeWhile_append, if_neg, CString.read]
  intro hall
  have hbytes : bytes.takeWhile (· ≠ 0) = bytes := (List.takeWhile_prefix _).eq_of_length hall
  have hnonzero : (bytes.takeWhile (· ≠ 0)).all (· ≠ 0) = true := List.all_takeWhile
  rw [hbytes, List.all_eq_true] at hnonzero
  exact absurd rfl (of_decide_eq_true (hnonzero 0 hzero))

variable {m : Manager} {place : Nat} {text : String}

theorem Spells.textAt (h : s.Spells m place text) : s.textAt place = text :=
  (textAt_of_holds (b := stretch m place text) h.holds (by simp [CString.ofText])).trans
    (CString.read_ofText h.spellable)

theorem Spells.grow (h : s.Spells m place text) (hs : Grown s s') : s'.Spells m place text :=
  ⟨h.spellable, h.holds.grow hs⟩

theorem Spells.write (h : s.Spells m place text) (hb : (stretch m place text).Apart b)
    (offset : Nat) (cell : Cell) : (s.write b offset cell).Spells m place text :=
  ⟨h.spellable, h.holds.write_of_apart hb offset cell⟩

theorem allocateText_of_spellable (s : Scratch) (m : Manager)
    (h : CString.spellable text = true) :
    s.allocateText m text = .ok (s.allocate m (spell text)) := by
  rw [allocateText, if_pos h]

theorem spells_allocate (s : Scratch) (m : Manager) (h : CString.spellable text = true) :
    (s.allocate m (spell text)).2.Spells m s.slots.length text :=
  ⟨h, s.holds_allocate m (spell text)⟩

/-- **Texts are spelled one after the other**, all of them past the memory that was there. -/
theorem allocateTexts_of_spellable (s : Scratch) (m : Manager) {texts : List String}
    (h : ∀ text ∈ texts, CString.spellable text = true) :
    ∃ places s', s.allocateTexts m texts = (.ok places, s') ∧ Grown s s' ∧
      List.Forall₂ (fun place text => s'.Spells m place text ∧ s.slots.length ≤ place)
        places texts := by
  induction texts generalizing s with
  | nil => exact ⟨[], s, rfl, .refl s, .nil⟩
  | cons text rest ih =>
    obtain ⟨htext, hrest⟩ := List.forall_mem_cons.1 h
    obtain ⟨places, s', heq, hs', hplaces⟩ := ih (s.allocate m (spell text)).2 hrest
    have hgrown := (Carved.allocate s m (spell text)).grown
    refine ⟨s.slots.length :: places, s', ?_, hgrown.trans hs', ?_⟩
    · rw [allocateTexts, s.allocateText_of_spellable m htext]
      dsimp only
      rw [heq]
      rfl
    · refine .cons ⟨(s.spells_allocate m htext).grow hs', Nat.le_refl _⟩ ?_
      exact hplaces.imp fun _ _ hplace =>
        ⟨hplace.1, Nat.le_trans hgrown.slots.length_le hplace.2⟩

/-- One text that cannot be spelled is enough. -/
theorem allocateTexts_of_not_spellable (s : Scratch) (m : Manager) {texts : List String}
    (h : ∃ text ∈ texts, CString.spellable text = false) :
    ∃ text ∈ texts, CString.spellable text = false ∧
      (s.allocateTexts m texts).1 = .error (unspellable text) := by
  induction texts generalizing s with
  | nil => simp at h
  | cons text rest ih =>
    cases htext : CString.spellable text with
    | false =>
      refine ⟨text, List.mem_cons_self, htext, ?_⟩
      rw [allocateTexts, allocateText, if_neg (Bool.eq_false_iff.1 htext)]
    | true =>
      have hrest : ∃ text ∈ rest, CString.spellable text = false := by
        obtain ⟨text', hmem, hfalse⟩ := h
        rcases List.mem_cons.1 hmem with rfl | hmem
        · rw [htext] at hfalse
          cases hfalse
        · exact ⟨text', hmem, hfalse⟩
      obtain ⟨text', hmem, hfalse, heq⟩ := ih (s.allocate m (spell text)).2 hrest
      refine ⟨text', List.mem_cons_of_mem _ hmem, hfalse, ?_⟩
      rw [allocateTexts, s.allocateText_of_spellable m htext]
      dsimp only
      rw [heq]
      rfl

end Scratch

/-! ## What a buffer is taken for -/

namespace Content

/-- Can the content be spelled?  No text in it has a zero character. -/
def Spellable : Content → Prop
  | text t => '\x00' ∉ t.toList
  | texts ts => ∀ t ∈ ts, '\x00' ∉ t.toList
  | _ => True

/-- Are cells what a buffer was taken for?  A text is its bytes in UTF-8 and a zero byte, and an
array of texts has a place for each of them, in order, which reads as that text. -/
def Means (reads : Nat → String → Prop) (initial : List Cell) : Content → Prop
  | cells taken => initial = taken
  | handles taken => initial = taken.map fun h => .address h.address
  | text t => initial = (t.toUTF8.data.toList ++ [0]).map .byte
  | texts ts => ∃ places, initial = places.map .place ∧ List.Forall₂ reads places ts

variable {content : Content} {initial : List Cell} {s : Scratch}

theorem Means.mono {reads reads' : Nat → String → Prop} (h : content.Means reads initial)
    (hreads : ∀ place text, reads place text → reads' place text) :
    content.Means reads' initial := by
  cases content with
  | texts ts =>
    obtain ⟨places, heq, hplaces⟩ := h
    exact ⟨places, heq, hplaces.imp hreads⟩
  | _ => exact h

/-- **What an allocation comes to**: fresh cells for the content, and the texts that an array points
to beside them. -/
structure Taken (content : Content) (s s' : Scratch) (buffer : Buffer) : Prop where
  held : s.held <:+ s'.held
  start : s.slots.length ≤ buffer.start
  holds : s'.Holds buffer (s'.slice buffer)
  means : content.Means (fun place text => s'.Spells buffer.region place text ∧
    s.slots.length ≤ place ∧ (Scratch.stretch buffer.region place text).Apart buffer)
    (s'.slice buffer)

theorem Taken.fresh {s' : Scratch} (m : Manager) (cells : List Cell) (hs : Scratch.Grown s s')
    (h : content.Means (fun place text => s'.Spells m place text ∧ s.slots.length ≤ place) cells) :
    content.Taken s (s'.allocate m cells).2 (s'.allocate m cells).1 := by
  have hholds := s'.holds_allocate m cells
  refine ⟨hs.held, hs.slots.length_le, hholds.slice.symm ▸ hholds, ?_⟩
  rw [hholds.slice]
  exact h.mono fun place text hplace =>
    ⟨hplace.1.grow (Scratch.Carved.allocate s' m cells).grown, hplace.2,
      .inl hplace.1.holds.inside⟩

theorem Taken.grow {s' s'' : Scratch} {buffer : Buffer} (h : content.Taken s s' buffer)
    (hs : Scratch.Grown s' s'') : content.Taken s s'' buffer := by
  have hholds := h.holds.grow hs
  refine ⟨h.held.trans hs.held, h.start, hholds.slice.symm ▸ hholds, ?_⟩
  rw [hholds.slice]
  exact h.means.mono fun place text hplace => ⟨hplace.1.grow hs, hplace.2⟩

/-- **What can be spelled is taken.** -/
theorem take_of_spellable (h : content.Spellable) (m : Manager) (s : Scratch) :
    ∃ buffer s', content.take m s = (.ok buffer, s') ∧ content.Taken s s' buffer := by
  cases content with
  | cells taken => exact ⟨_, _, rfl, .fresh m taken (.refl s) rfl⟩
  | handles taken =>
    exact ⟨_, _, rfl, .fresh m (taken.map fun h => .ofHandle (some h)) (.refl s) rfl⟩
  | text t =>
    refine ⟨_, _, ?_, .fresh m (Scratch.spell t) (.refl s) ?_⟩
    · rw [take, s.allocateText_of_spellable m ((CString.spellable_iff t).2 h)]
    · rw [Means, Scratch.spell, CString.ofText, Utf8.encode_toList]
  | texts ts =>
    obtain ⟨places, s', heq, hs', hplaces⟩ := s.allocateTexts_of_spellable m
      fun t ht => (CString.spellable_iff t).2 (h t ht)
    refine ⟨_, _, ?_, .fresh m (places.map .place) hs' ⟨places, rfl, hplaces⟩⟩
    rw [take, heq]
    rfl

theorem take_of_not_spellable (h : ¬ content.Spellable) (m : Manager) (s : Scratch) :
    ∃ text, (content.take m s).1 = .error (.argument text) := by
  cases content with
  | cells taken => exact absurd trivial h
  | handles taken => exact absurd trivial h
  | text t =>
    have hfalse : ¬ CString.spellable t = true := fun ht => h ((CString.spellable_iff t).1 ht)
    rw [take, Scratch.allocateText, if_neg hfalse]
    exact ⟨_, rfl⟩
  | texts ts =>
    obtain ⟨t, ht, hzero⟩ : ∃ t ∈ ts, CString.spellable t = false := by
      simp only [Spellable, not_forall, not_not] at h
      obtain ⟨t, ht, hzero⟩ := h
      exact ⟨t, ht, Bool.eq_false_iff.2 fun htrue => (CString.spellable_iff t).1 htrue hzero⟩
    obtain ⟨t, -, -, heq⟩ := s.allocateTexts_of_not_spellable m ⟨t, ht, hzero⟩
    rw [take]
    generalize s.allocateTexts m ts = allocated at heq
    obtain ⟨_, s'⟩ := allocated
    cases heq
    exact ⟨_, rfl⟩

theorem take_eq_ok {m : Manager} {s' : Scratch} {buffer : Buffer}
    (h : content.take m s = (.ok buffer, s')) : content.Taken s s' buffer := by
  by_cases hspellable : content.Spellable
  · obtain ⟨_, _, heq, htaken⟩ := take_of_spellable hspellable m s
    rw [heq] at h
    cases h
    exact htaken
  · obtain ⟨_, heq⟩ := take_of_not_spellable hspellable m s
    rw [h] at heq
    cases heq

end Content

/-! ## Buffers in a run -/

/-- A buffer in somebody's hands, what it was taken for and what it held then. -/
structure Loan where
  buffer : Buffer
  content : Content
  initial : List Cell

namespace Operation

/-- The buffer that a call hands out, and what it was taken for. -/
def handed? (b : Bridge σ) : {α : Type} → Operation σ α → Option (Buffer × Content)
  | _, allocate m content =>
    (((allocate m content).perform b).1.toOption).map (·, content)
  | _, allocateFrom r cells =>
    (((allocateFrom r cells).perform b).1.toOption).map (·, .cells cells)
  | _, _ => none

/-- The buffer that a call hands out, as it holds after the call what it was taken for. -/
def loan? (b : Bridge σ) (op : Operation σ α) : Option Loan :=
  (op.handed? b).map fun (buffer, content) =>
    ⟨buffer, content, (op.after b).scratch.slice buffer⟩

/-- The buffers that are still in somebody's hands after a call. -/
def remaining (loans : List Loan) : {α : Type} → Operation σ α → List Loan
  | _, dropBuffer buffer => loans.eraseP (·.buffer = buffer)
  | _, _ => loans

/-- The cells of a buffer after a call that may write through it. -/
def overwritten (buffer : Buffer) (cells : List Cell) : {α : Type} → Operation σ α → List Cell
  | _, write buffer' offset cell => if buffer' = buffer then cells.set offset cell else cells
  | _, _ => cells

variable {op : Operation σ α} {b : Bridge σ} {buffer : Buffer} {content : Content}

/-- **What is handed out was taken from fresh cells.** -/
theorem taken_of_handOut (m : Manager) (content : Content)
    (h : ((allocateContent m content >>= Manager.handOut) b).1.toOption = some buffer) :
    ∃ s, content.Taken b.scratch s buffer ∧
      ((allocateContent m content >>= Manager.handOut) b).2.scratch = s.hold buffer := by
  rw [Content.allocateContent_eq, bind_apply] at h ⊢
  rcases hresult : m.allocating (content.take m) b with ⟨e | taken, b'⟩ <;> rw [hresult] at h <;>
    cases h
  obtain ⟨-, htake, htaken⟩ := Manager.allocating_eq_ok (congrArg Prod.fst hresult)
  rw [hresult] at htaken
  exact ⟨b'.scratch, htaken ▸ Content.take_eq_ok (Prod.ext htake rfl), rfl⟩

theorem handed?_cases (h : op.handed? b = some (buffer, content)) :
    (∃ s, content.Taken b.scratch s buffer ∧ (op.after b).scratch = s.hold buffer) ∧
      ∀ loans, op.remaining loans = loans := by
  cases op with
  | allocate m content =>
    obtain ⟨_, hresult, heq⟩ := Option.map_eq_some_iff.1 h
    cases heq
    exact ⟨taken_of_handOut _ content hresult, fun _ => rfl⟩
  | allocateFrom r cells =>
    obtain ⟨_, hresult, heq⟩ := Option.map_eq_some_iff.1 h
    cases heq
    exact ⟨taken_of_handOut (b.resource r).manager (.cells cells) hresult, fun _ => rfl⟩
  | _ => cases h

theorem taken_of_handed? (h : op.handed? b = some (buffer, content)) :
    content.Taken b.scratch (op.after b).scratch buffer := by
  obtain ⟨⟨s, htaken, hscratch⟩, -⟩ := handed?_cases h
  exact hscratch ▸ htaken.grow (s.grown_hold buffer)

theorem remaining_subset (op : Operation σ α) (loans : List Loan) :
    op.remaining loans ⊆ loans := by
  cases op with
  | dropBuffer buffer => exact List.eraseP_subset
  | _ => exact List.Subset.refl loans

theorem sublist_remaining (op : Operation σ α) {loans : List Loan} {held : List Buffer}
    (h : (loans.map (·.buffer)).Sublist held) :
    ((op.remaining loans).map (·.buffer)).Sublist (op.stillHeld held) := by
  cases op with
  | dropBuffer buffer =>
    have herase : loans.eraseP (·.buffer = buffer) = loans.eraseP ((· == buffer) ∘ (·.buffer)) :=
      rfl
    rw [remaining, stillHeld, herase, ← List.eraseP_map, ← List.erase_eq_eraseP']
    exact h.erase buffer
  | _ => exact h

theorem overwritten_of_written? (h : op.written? = none) (cells : List Cell) :
    op.overwritten buffer cells = cells := by
  cases op with
  | write => cases h
  | _ => rfl

end Operation

namespace Run

variable {b₀ b : Bridge σ}

/-- The buffers in somebody's hands, each with what it was taken for. -/
def inHand : {b : Bridge σ} → Run b₀ b → List Loan
  | _, done => []
  | _, @call _ _ b' _ run op _ => (op.loan? b').toList ++ op.remaining run.inHand

/-- Is a buffer in somebody's hands that was handed out for a content, and what did it hold then? -/
def Handed (run : Run b₀ b) (buffer : Buffer) (content : Content) (initial : List Cell) : Prop :=
  ⟨buffer, content, initial⟩ ∈ run.inHand

/-- Is a buffer in somebody's hands? -/
def Grants (run : Run b₀ b) (buffer : Buffer) : Prop :=
  ∃ content initial, run.Handed buffer content initial

/-- **What a buffer should hold**: what it held when it was handed out, and on top of that what was
written through it. -/
def contents (buffer : Buffer) : {b : Bridge σ} → Run b₀ b → List Cell
  | _, done => []
  | _, @call _ _ b' _ run op _ =>
    if (op.handed? b').map (·.1) = some buffer then (op.after b').scratch.slice buffer
    else op.overwritten buffer (run.contents buffer)

/-- Did callers write only through buffers that were in their hands? -/
def Lawful : {b : Bridge σ} → Run b₀ b → Prop
  | _, done => True
  | _, call run op _ => run.Lawful ∧ ∀ buffer, op.written? = some buffer → run.Grants buffer

/-- **What a run keeps**: the buffers in somebody's hands are owners of their regions, lie apart
from each other and from the strings that an array points to, and hold what they should. -/
structure Separated (run : Run b₀ b) : Prop where
  held : (run.inHand.map (·.buffer)).Sublist b.scratch.held
  apart : ∀ buffer buffer', run.Grants buffer → run.Grants buffer' → buffer ≠ buffer' →
    buffer.Apart buffer'
  holds : ∀ buffer, run.Grants buffer → b.scratch.Holds buffer (run.contents buffer)
  means : ∀ buffer content initial, run.Handed buffer content initial →
    content.Means (fun place text => b.scratch.Spells buffer.region place text ∧
      ∀ buffer', run.Grants buffer' →
        (Scratch.stretch buffer.region place text).Apart buffer') initial

variable {run : Run b₀ b} {op : Operation σ α} {known : op.Known b}

theorem handed_call {buffer : Buffer} {content : Content} {initial : List Cell}
    (h : (run.call op known).Handed buffer content initial) :
    run.Handed buffer content initial ∨
      op.handed? b = some (buffer, content) ∧ (op.after b).scratch.slice buffer = initial := by
  rcases List.mem_append.1 h with h | h
  · obtain ⟨_, hhanded, heq⟩ := Option.map_eq_some_iff.1 (Option.mem_toList.1 h)
    cases heq
    exact .inr ⟨hhanded, rfl⟩
  · exact .inl (op.remaining_subset _ h)

theorem grants_call {buffer : Buffer} (h : (run.call op known).Grants buffer) :
    run.Grants buffer ∨ ∃ content, op.handed? b = some (buffer, content) := by
  obtain ⟨content, initial, h⟩ := h
  rcases handed_call h with h | h
  · exact .inl ⟨content, initial, h⟩
  · exact .inr ⟨content, h.1⟩

namespace Separated

/-- Who has a buffer in hand has a share in its region. -/
theorem owned (hheld : (run.inHand.map (·.buffer)).Sublist b.scratch.held) {buffer : Buffer}
    (h : run.Grants buffer) : b.Owned buffer.region := by
  obtain ⟨content, initial, h⟩ := h
  exact .inr ⟨buffer, hheld.subset (List.mem_map_of_mem h), rfl⟩

/-- A buffer that is handed out is in somebody's hands until it is let go of. -/
theorem held_call (h : run.Separated) (hop : op.written? = none) :
    ((run.call op known).inHand.map (·.buffer)).Sublist (op.after b).scratch.held := by
  rw [inHand, List.map_append, Operation.loan?]
  cases hhanded : op.handed? b with
  | none =>
    exact (op.sublist_remaining h.held).trans (op.stillHeld_suffix hop b).sublist
  | some handed =>
    obtain ⟨buffer, content⟩ := handed
    obtain ⟨⟨s, htaken, hscratch⟩, hremaining⟩ := Operation.handed?_cases hhanded
    rw [hremaining, hscratch]
    exact (h.held.trans htaken.held.sublist).cons_cons buffer

/-- A call that writes nothing of the caller's keeps all that, and puts what it hands out behind
everything there was. -/
theorem retains (h : run.Separated) (hop : op.written? = none) :
    (run.call op known).Separated := by
  have hheld : ((run.call op known).inHand.map (·.buffer)).Sublist (op.after b).scratch.held :=
    h.held_call hop
  have hkeep {buffer buffer' : Buffer} {cells : List Cell}
      (hbuffer : (run.call op known).Grants buffer) (hregion : buffer'.region = buffer.region)
      (hholds : b.scratch.Holds buffer' cells) : (op.after b).scratch.Holds buffer' cells :=
    hholds.keep (op.length_slots_le hop b) fun _ _ hslot heq =>
      op.keeps_owned hop b hslot ((heq.trans hregion) ▸ owned hheld hbuffer)
  have hnew {buffer : Buffer} {content : Content}
      (hhanded : op.handed? b = some (buffer, content)) :
      content.Taken b.scratch (op.after b).scratch buffer := (Operation.taken_of_handed? hhanded)
  have hsame {buffer buffer' : Buffer} {content content' : Content}
      (hhanded : op.handed? b = some (buffer, content))
      (hhanded' : op.handed? b = some (buffer', content')) : buffer = buffer' :=
    congrArg Prod.fst (Option.some.inj (hhanded.symm.trans hhanded'))
  have hinside {buffer : Buffer} (hbuffer : run.Grants buffer) :
      buffer.start + buffer.length ≤ b.scratch.slots.length := (h.holds buffer hbuffer).inside
  refine ⟨hheld, fun buffer buffer' hbuffer hbuffer' hne => ?_, fun buffer hbuffer => ?_,
    fun buffer content initial hhanded => ?_⟩
  · rcases grants_call hbuffer with hbuffer | ⟨content, hhanded⟩ <;>
      rcases grants_call hbuffer' with hbuffer' | ⟨content', hhanded'⟩
    · exact h.apart buffer buffer' hbuffer hbuffer' hne
    · exact .inl (Nat.le_trans (hinside hbuffer) (hnew hhanded').start)
    · exact .inr (Nat.le_trans (hinside hbuffer') (hnew hhanded).start)
    · exact absurd (hsame hhanded hhanded') hne
  · rw [contents]
    split
    · rename_i hnow
      obtain ⟨⟨_, content⟩, hhanded, rfl⟩ := Option.map_eq_some_iff.1 hnow
      exact (hnew hhanded).holds
    · rename_i hnow
      rw [Operation.overwritten_of_written? hop]
      rcases grants_call hbuffer with hold | ⟨content, hhanded⟩
      · exact hkeep hbuffer rfl (h.holds buffer hold)
      · exact absurd (congrArg (Option.map (·.1)) hhanded) hnow
  · have hbuffer : (run.call op known).Grants buffer := ⟨content, initial, hhanded⟩
    rcases handed_call hhanded with hold | ⟨hnow, rfl⟩
    · refine (h.means buffer content initial hold).mono fun place text hplace => ?_
      refine ⟨⟨hplace.1.spellable, hkeep hbuffer rfl hplace.1.holds⟩, fun buffer' hbuffer' => ?_⟩
      rcases grants_call hbuffer' with hbuffer' | ⟨content', hhanded'⟩
      · exact hplace.2 buffer' hbuffer'
      · exact .inl (Nat.le_trans hplace.1.holds.inside (hnew hhanded').start)
    · refine (hnew hnow).means.mono fun place text hplace => ?_
      refine ⟨hplace.1, fun buffer' hbuffer' => ?_⟩
      rcases grants_call hbuffer' with hbuffer' | ⟨content', hhanded'⟩
      · exact .inr (Nat.le_trans (hinside hbuffer') hplace.2.1)
      · exact hsame hnow hhanded' ▸ hplace.2.2

/-- A write through a buffer that is in somebody's hands keeps all that. -/
theorem write {buffer : Buffer} {offset : Nat} {cell : Cell}
    {known : (Operation.write buffer offset cell).Known b} (h : run.Separated)
    (hbuffer : run.Grants buffer) : (run.call (.write buffer offset cell) known).Separated := by
  have hgrants {buffer' : Buffer} (hbuffer' : (run.call _ known).Grants buffer') :
      run.Grants buffer' :=
    (grants_call hbuffer').resolve_right fun ⟨_, hhanded⟩ => by cases hhanded
  have hafter : ((Operation.write buffer offset cell).after b).scratch =
      b.scratch.write buffer offset cell := rfl
  refine ⟨?_, fun buffer₁ buffer₂ h₁ h₂ => h.apart buffer₁ buffer₂ (hgrants h₁) (hgrants h₂),
    fun buffer' hbuffer' => ?_, fun buffer' content initial hhanded => ?_⟩
  · rw [hafter, Scratch.held_write]
    exact h.held
  · rw [contents, if_neg (by simp [Operation.handed?]), hafter, Operation.overwritten]
    split
    · rename_i heq
      exact heq ▸ (h.holds buffer hbuffer).write_self offset cell
    · rename_i hne
      exact (h.holds buffer' (hgrants hbuffer')).write_of_apart
        (h.apart _ _ (hgrants hbuffer') hbuffer (Ne.symm hne)) offset cell
  · have hhanded := (handed_call hhanded).resolve_right fun ⟨hnow, _⟩ => by cases hnow
    refine (h.means buffer' content initial hhanded).mono fun place text hplace => ?_
    exact ⟨hplace.1.write (hplace.2 buffer hbuffer) offset cell,
      fun buffer₁ h₁ => hplace.2 buffer₁ (hgrants h₁)⟩

end Separated

/-- **Every run keeps its buffers apart.** -/
theorem separated {b₀ b : Bridge σ} (run : Run b₀ b) (h : run.Lawful) : run.Separated := by
  have hnone (buffer : Buffer) : ¬ (done (b := b₀)).Grants buffer :=
    fun ⟨_, _, hhanded⟩ => List.not_mem_nil hhanded
  induction run with
  | done =>
    exact ⟨List.nil_sublist _, fun buffer _ h => (hnone buffer h).elim,
      fun buffer h => (hnone buffer h).elim, fun _ _ _ h => (List.not_mem_nil h).elim⟩
  | call run op known ih =>
    have hrun := ih h.1
    cases hop : op.written? with
    | none => exact hrun.retains hop
    | some buffer =>
      cases op with
      | write buffer' offset cell => exact hrun.write (h.2 _ rfl)
      | _ => cases hop

end Run

/-! ## Reading back -/

namespace Content

/-- **An allocation succeeds exactly for what can be spelled**, and finds it again. -/
theorem allocate_iff {m : Manager} {b : Bridge σ} (hm : (b.manager m).closed = false)
    (content : Content) :
    let op : Operation σ Buffer := .allocate m content
    (content.Spellable → ∃ buffer, (op.perform b).1 = .ok buffer ∧
      content.Means (fun place text => (op.after b).scratch.textAt place = text)
        ((op.after b).scratch.slice buffer)) ∧
    (¬ content.Spellable → ∃ text, (op.perform b).1 = .error (.argument text)) := by
  intro op
  have hperform : (op.perform b).1 = (content.take m b.scratch).1 := by
    rw [show op.perform = m.allocating (content.take m) >>= Manager.handOut from
      congrArg (· >>= Manager.handOut) (allocateContent_eq m content), bind_apply,
      Manager.allocating, bind_of_ok (read_apply _ _), if_neg (Bool.eq_false_iff.1 hm),
      bind_of_ok (read_apply _ _)]
    dsimp only
    rw [bind_of_ok (update_apply _ _), bind_of_ok (update_apply _ _), ofExcept_apply]
    cases (content.take m b.scratch).1 <;> rfl
  rw [hperform]
  refine ⟨fun h => ?_, fun h => take_of_not_spellable h m b.scratch⟩
  obtain ⟨buffer, s', heq, -⟩ := take_of_spellable h m b.scratch
  have hok : (content.take m b.scratch).1 = .ok buffer := congrArg Prod.fst heq
  have hhanded : op.handed? b = some (buffer, content) := by
    rw [Operation.handed?, show ((Operation.allocate m content).perform b).1 = .ok buffer from
      hperform.trans hok]
    rfl
  exact ⟨buffer, hok, (Operation.taken_of_handed? hhanded).means.mono fun _ _ hplace =>
    hplace.1.textAt⟩

end Content

namespace Run

/-- **A buffer holds what was put into it.**  In a run whose callers write only through buffers that
are in their hands, an allocation from an open manager succeeds unless a text has a zero character;
what it was taken for is found in it; and until it is let go of each buffer holds that, overwritten
through that buffer and by nobody else, while the texts that an array points to still read back,
whatever becomes of its manager and of other buffers.  Bytes with a zero byte among them read as the
string up to it. -/
theorem buffers_hold {b₀ b : Bridge σ} (run : Run b₀ b) (h : run.Lawful) :
    (∀ m content, (b.manager m).closed = false →
      let op : Operation σ Buffer := .allocate m content
      (content.Spellable → ∃ buffer, (op.perform b).1 = .ok buffer ∧
        content.Means (fun place text => (op.after b).scratch.textAt place = text)
          ((op.after b).scratch.slice buffer)) ∧
      (¬ content.Spellable → ∃ text, (op.perform b).1 = .error (.argument text))) ∧
    (∀ buffer content initial, run.Handed buffer content initial →
      content.Means (fun place text => b.scratch.textAt place = text) initial) ∧
    (∀ buffer, run.Grants buffer → b.scratch.slice buffer = run.contents buffer) ∧
    (∀ buffer bytes, run.Grants buffer → run.contents buffer = bytes.map .byte → 0 ∈ bytes →
      b.scratch.textAt buffer.start = CString.read bytes) ∧
    ∀ text, '\x00' ∉ text.toList →
      CString.read (text.toUTF8.data.toList ++ [0]) = text := by
  have hseparated := run.separated h
  refine ⟨fun m content hm => Content.allocate_iff hm content, fun buffer content initial hhanded =>
    (hseparated.means buffer content initial hhanded).mono fun _ _ hplace => hplace.1.textAt,
    fun buffer hbuffer => (hseparated.holds buffer hbuffer).slice,
    fun buffer bytes hbuffer hbytes hzero =>
    Scratch.textAt_of_holds (hbytes ▸ hseparated.holds buffer hbuffer) hzero, fun text htext => ?_⟩
  rw [← Utf8.encode_toList]
  exact CString.read_ofText ((CString.spellable_iff text).2 htext)

/-- Two texts, an array of them and a number that is written to, read after their manager was closed
and another buffer of its region was let go of. -/
theorem buffers_hold_after_close :
    ∃ (b : Bridge Unit) (run : Run (.start () []) b), run.Lawful ∧
      run.Grants ⟨⟨0⟩, 7, 1⟩ ∧ run.contents ⟨⟨0⟩, 7, 1⟩ = [.number 8] ∧
      b.scratch.slice ⟨⟨0⟩, 7, 1⟩ = [.number 8] ∧
      b.scratch.textAt 0 = "é" ∧ b.scratch.textAt 3 = "b" ∧ (b.manager ⟨0⟩).closed = true := by
  let run₁ := (Run.done (b := Bridge.start () [])).call (.createManager 16) (by decide)
  let run₂ := run₁.call (.allocate ⟨0⟩ (.texts ["é", "b"])) (by decide)
  let run₃ := run₂.call (.allocate ⟨0⟩ (.cells [.number 7])) (by decide)
  let run₄ := run₃.call (.write ⟨⟨0⟩, 7, 1⟩ 0 (.number 8)) (by decide)
  let run₅ := run₄.call (.allocate ⟨0⟩ (.cells [.flag true])) (by decide)
  let run₆ := run₅.call (.closeManager ⟨0⟩) (by decide)
  let run := run₆.call (.dropBuffer ⟨⟨0⟩, 8, 1⟩) (by decide)
  have hnumber : run₃.Handed ⟨⟨0⟩, 7, 1⟩ (.cells [.number 7]) [.number 7] := .head _
  have htexts : run.Handed ⟨⟨0⟩, 5, 2⟩ (.texts ["é", "b"]) [.place 0, .place 3] := .tail _ (.head _)
  have hlawful : run.Lawful := by
    refine ⟨⟨⟨⟨⟨⟨⟨trivial, nofun⟩, nofun⟩, nofun⟩, fun buffer heq => ?_⟩, nofun⟩, nofun⟩, nofun⟩
    cases heq
    exact ⟨_, _, hnumber⟩
  have hgrants : run.Grants ⟨⟨0⟩, 7, 1⟩ := ⟨.cells [.number 7], [.number 7], .head _⟩
  obtain ⟨-, hmeans, hholds, -⟩ := run.buffers_hold hlawful
  obtain ⟨places, hplaces, hread⟩ := hmeans _ _ _ htexts
  obtain rfl : [0, 3] = places := (List.map_inj_right fun _ _ => Cell.place.inj).1 hplaces
  obtain _ | ⟨hfirst, _ | ⟨hsecond, -⟩⟩ := hread
  exact ⟨_, run, hlawful, hgrants, rfl, hholds _ hgrants, hfirst, hsecond, by decide⟩

end Run

end HandleBridge
