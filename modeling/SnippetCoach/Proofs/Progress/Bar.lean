import SnippetCoach.Machine.Usual
import SnippetCoach.Progress.Bar
import SnippetCoach.Proofs.Number.Range
import SnippetCoach.Proofs.Outcome
import SnippetCoach.Proofs.Progress.Record
/-! Progress as text. Every bar has at least as many cells as the width, filled ones first, and
exactly as many unless the share is negative. A share beyond the number format makes the text fail
at every width; without such shares and negative ones it exists at every width that fits in
memory. -/
namespace SnippetCoach
open Number

namespace Entry

variable {entry : Entry}

/-- The share is within the number format. -/
def InRange (entry : Entry) : Prop :=
  0 < entry.encountered →
    entry.resolved.natAbs < Binary64.overflow * entry.encountered.toNat

/-- A record can hold negative counters, and then the share can be negative. -/
def IsNegative (entry : Entry) : Prop :=
  0 < entry.encountered ∧ entry.resolved < 0

theorem completion_eq_error_iff {cause : ArithmeticError} :
    entry.completion = .error cause ↔ cause = .quotientTooLarge ∧ ¬entry.InRange := by
  rw [completion, InRange]
  split
  · rename_i hnone
    exact iff_of_false nofun fun h => h.2 fun hsome => absurd hsome (Int.not_lt.mpr hnone)
  · rename_i hsome
    have hpos : 0 < entry.encountered := Int.not_le.mp hsome
    have hden : 0 < entry.encountered.toNat := Int.pos_iff_toNat_pos.mp hpos
    rw [map_eq_error_iff]
    rcases Binary64.ofQuotient?_cases entry.resolved hden with
        ⟨hlimit, _, _, heq⟩ | ⟨hlimit, heq⟩
    · rw [heq]
      exact iff_of_false nofun fun h => h.2 fun _ => hlimit
    · rw [heq, Except.error.injEq, eq_comm]
      exact (and_iff_left fun h => absurd (h hpos) (Nat.not_lt.mpr hlimit)).symm

section Nonnegative

variable (hrange : entry.InRange) (hnonneg : ¬entry.IsNegative)
include hrange hnonneg

theorem exists_completion :
    ∃ s e, entry.completion = .ok (.finite false s e) ∧ (s : ℚ) * 2 ^ e ≤ 100 := by
  by_cases hnone : entry.encountered ≤ 0
  · refine ⟨0, Binary64.leastExponent, if_pos hnone, ?_⟩
    rw [Nat.cast_zero, zero_mul]
    exact Nat.ofNat_nonneg 100
  · have hpos : 0 < entry.encountered := Int.not_le.mp hnone
    have hden : 0 < entry.encountered.toNat := Int.pos_iff_toNat_pos.mp hpos
    have hsign : decide (entry.resolved < 0) = false :=
      decide_eq_false fun hnegative => hnonneg ⟨hpos, hnegative⟩
    rcases Binary64.ofQuotient?_cases entry.resolved hden with
        ⟨-, s, e, hshare⟩ | ⟨hlimit, -⟩
    · obtain ⟨t, f, hhundred, -⟩ := @Binary64.exists_nearest_eq false 100 (by decide)
      obtain ⟨u, g, hcapped, hle⟩ := Binary64.exists_atMost_nearest
        (Binary64.powerNum s e * Binary64.powerNum t f)
        (Nat.mul_pos (Binary64.powerDen_pos e) (Binary64.powerDen_pos f))
        (show 100 < 2 ^ 53 by decide)
      refine ⟨u, g, ?_, hle⟩
      rw [completion, if_neg hnone, hshare, hsign, Except.map, Binary64.ofNat, hhundred]
      exact congrArg Except.ok hcapped
    · exact absurd (hrange hpos) (Nat.not_lt.mpr hlimit)

/-- At most a hundred per cent, divided by hundred, is at most one, and at most one times the width
is at most the width: no rounding leads beyond these bounds. -/
theorem filledCells_cases (width : Nat) :
    (∃ filled : Nat, entry.filledCells width = .ok filled ∧ (width < 2 ^ 53 → filled ≤ width)) ∨
      (2 ^ 53 ≤ width ∧ entry.filledCells width = .error .integerTooLarge) := by
  obtain ⟨s, e, hcompletion, hhundred⟩ := exists_completion hrange hnonneg
  rcases Binary64.ofInt?_natCast width with ⟨t, f, hcells, hcanonical, hexact⟩ | ⟨hbeyond, hcells⟩
  · obtain ⟨u, g, hfraction, hone⟩ := Binary64.exists_divNat_eq false (by decide) hhundred
    obtain ⟨v, k, hproduct, hwidth⟩ :=
      @Binary64.exists_mul_eq t f false false u g hcanonical hone
    refine .inl ⟨roundQuotient (Binary64.powerNum v k) (Binary64.powerDen k), ?_, fun hlimit => ?_⟩
    · rw [filledCells, hcompletion, hcells]
      simp only [bind, Except.bind, hfraction, hproduct]
      rfl
    · exact Binary64.roundQuotient_power_le (hwidth.trans (hexact hlimit).le)
  · refine .inr ⟨hbeyond, ?_⟩
    rw [filledCells, hcompletion, hcells]
    rfl

end Nonnegative

/-- A negative share stays below the cap of a hundred per cent, and no rounding changes its sign. -/
theorem hasSign_completion (hnegative : entry.IsNegative) {x : Binary64}
    (h : entry.completion = .ok x) : x.HasSign true := by
  obtain ⟨hsome, hresolved⟩ := hnegative
  have hden : 0 < entry.encountered.toNat := Int.pos_iff_toNat_pos.mp hsome
  rw [completion, if_neg (Int.not_le.mpr hsome)] at h
  obtain ⟨share, hshare, rfl⟩ := map_eq_ok_iff.mp h
  have hsign := Binary64.hasSign_ofQuotient? hden hshare
  rw [decide_eq_true hresolved] at hsign
  have hhundred := Binary64.hasSign_nearest false 100 Nat.one_pos
  exact (hsign.mul hhundred).atMost

theorem filledCells_nonpos (hnegative : entry.IsNegative) {width : Nat} {filled : Int}
    (h : entry.filledCells width = .ok filled) : filled ≤ 0 := by
  obtain ⟨completion, hcompletion, h⟩ := bind_eq_ok_iff.mp h
  obtain ⟨cells, hcells, hround⟩ := bind_eq_ok_iff.mp h
  have hshare := (hasSign_completion hnegative hcompletion).divNat (show 0 < 100 by decide)
  have hwidth : cells.HasSign false := by
    rcases Binary64.ofInt?_natCast width with ⟨t, f, heq, -⟩ | ⟨-, heq⟩
    · obtain rfl := Except.ok.inj (heq.symm.trans hcells)
      exact rfl
    · cases heq.symm.trans hcells
  exact (hshare.mul hwidth).round_nonpos hround

end Entry

section Drawing

variable [Machine]

section Run

variable {c : Char} {run : List Char}

theorem repeatChar_eq_ok_iff {count : Int} :
    repeatChar c count = .ok run ↔
      (fitsWord count = true ∧ count.toNat ≤ Machine.textLimit) ∧
        run = List.replicate count.toNat c := by
  rw [repeatChar]
  cases fitsWord count with
  | false => exact iff_of_false nofun fun h => Bool.noConfusion h.1.1
  | true =>
      rw [Bool.not_true, if_neg Bool.false_ne_true]
      split
      · rename_i hlimit
        exact iff_of_false nofun fun h => absurd h.1.2 (Nat.not_le.mpr hlimit)
      · rename_i hlimit
        rw [and_iff_right ⟨rfl, Nat.not_lt.mp hlimit⟩, Except.ok.injEq, eq_comm]

/-- What fits in memory fits in a word. -/
theorem repeatChar_natCast_eq_ok_iff {count : Nat} :
    repeatChar c count = .ok run ↔
      count ≤ Machine.textLimit ∧ run = List.replicate count c := by
  have hword : count ≤ Machine.textLimit → fitsWord count = true := by
    intro hcount
    have hlimit := Machine.textLimit_lt
    rw [fitsWord, Bool.and_eq_true_iff, decide_eq_true_iff, decide_eq_true_iff]
    omega
  rw [repeatChar_eq_ok_iff, Int.toNat_natCast, and_iff_right_of_imp hword]

end Run

end Drawing

/-- So many cells between brackets, filled ones first. -/
def IsBar (cells : Nat) (bar : List Char) : Prop :=
  ∃ filled empty, filled + empty = cells ∧
    bar = '[' :: (List.replicate filled '#' ++ List.replicate empty '-' ++ [']'])

theorem IsBar.length {cells : Nat} {bar : List Char} (h : IsBar cells bar) :
    bar.length = cells + 2 := by
  obtain ⟨filled, empty, hcells, rfl⟩ := h
  simp only [List.length_cons, List.length_append, List.length_replicate, List.length_nil]
  omega

namespace Entry

variable {entry : Entry} {width : Nat} {bar : List Char}

section Bars

variable [Machine]

theorem inRange_of_bar (h : entry.bar width = .ok bar) : entry.InRange := by
  obtain ⟨cells, hcells, -⟩ := bind_eq_ok_iff.mp h
  obtain ⟨completion, hcompletion, -⟩ := bind_eq_ok_iff.mp (mapError_eq_ok_iff.mp hcells)
  by_contra hbeyond
  cases (completion_eq_error_iff.mpr ⟨rfl, hbeyond⟩).symm.trans hcompletion

theorem bar_eq_ok_iff :
    entry.bar width = .ok bar ↔ ∃ filled, entry.filledCells width = .ok filled ∧
      ∃ full, repeatChar '#' filled = .ok full ∧
        ∃ rest, repeatChar '-' (width - filled) = .ok rest ∧
          '[' :: (full ++ rest ++ [']']) = bar := by
  rw [Entry.bar]
  simp only [bind_eq_ok_iff, mapError_eq_ok_iff, pure, Except.pure, Except.ok.injEq]

/-- Widths that fit in memory are far below the whole numbers that are exact. -/
theorem exists_bar (hrange : entry.InRange) (hnonneg : ¬entry.IsNegative)
    (hwidth : width ≤ Machine.textLimit) : ∃ bar, entry.bar width = .ok bar := by
  have hexact : width < 2 ^ 53 := Nat.lt_of_le_of_lt hwidth Machine.textLimit_lt
  rcases filledCells_cases hrange hnonneg width with ⟨filled, hfilled, hle⟩ | ⟨hbeyond, -⟩
  · have hfits : filled ≤ width := hle hexact
    have hfull := repeatChar_natCast_eq_ok_iff.mpr
      ⟨hfits.trans hwidth, (rfl : List.replicate filled '#' = _)⟩
    have hrest := repeatChar_natCast_eq_ok_iff.mpr
      ⟨(Nat.sub_le width filled).trans hwidth, (rfl : List.replicate (width - filled) '-' = _)⟩
    rw [Int.ofNat_sub hfits] at hrest
    exact ⟨_, bar_eq_ok_iff.mpr ⟨filled, hfilled, _, hfull, _, hrest, rfl⟩⟩
  · omega

theorem isBar_of_bar (hnonneg : ¬entry.IsNegative) (h : entry.bar width = .ok bar) :
    IsBar width bar := by
  obtain ⟨cells, hcells, full, hfull, rest, hrest, rfl⟩ := bar_eq_ok_iff.mp h
  rcases filledCells_cases (inRange_of_bar h) hnonneg width with
    ⟨filled, hfilled, hle⟩ | ⟨-, herror⟩
  · obtain rfl := Except.ok.inj (hfilled.symm.trans hcells)
    obtain ⟨hlimit, rfl⟩ := repeatChar_natCast_eq_ok_iff.mp hfull
    have hexact := Machine.textLimit_lt
    -- beyond the exact numbers the width is above what fits in memory
    have hfits : filled ≤ width := by
      rcases Nat.lt_or_ge width (2 ^ 53) with hwidth | hwidth
      · exact hle hwidth
      · omega
    rw [← Int.ofNat_sub hfits] at hrest
    obtain ⟨-, rfl⟩ := repeatChar_natCast_eq_ok_iff.mp hrest
    exact ⟨filled, width - filled, Nat.add_sub_cancel' hfits, rfl⟩
  · cases herror.symm.trans hcells

/-- The bar of a negative share has only empty cells, and one too many for each cell below none. -/
theorem isBar_of_negative (hnegative : entry.IsNegative) (h : entry.bar width = .ok bar) :
    ∃ excess : Nat, entry.filledCells width = .ok (-(excess : Int)) ∧
      IsBar (width + excess) bar := by
  obtain ⟨filled, hfilled, full, hfull, rest, hrest, rfl⟩ := bar_eq_ok_iff.mp h
  obtain ⟨excess, rfl⟩ := Int.exists_eq_neg_ofNat (filledCells_nonpos hnegative hfilled)
  have hnone : (-(excess : Int)).toNat = 0 := by omega
  have hcells : ((width : Int) - -(excess : Int)).toNat = width + excess := by omega
  obtain ⟨-, rfl⟩ := repeatChar_eq_ok_iff.mp hfull
  obtain ⟨-, rfl⟩ := repeatChar_eq_ok_iff.mp hrest
  rw [hnone, hcells]
  exact ⟨excess, hfilled, 0, width + excess, Nat.zero_add _, rfl⟩

end Bars

open scoped Machine in
example : Entry.bar { encountered := 4, resolved := 2 } 10 = .ok "[#####-----]".toList := by
  decide +kernel

end Entry

/-- How many cells beyond the width the bar of an entry has. There are none unless the share is
negative; then the number of cells to fill is negative, and each counts as one too many. -/
structure Exceeds (width : Nat) (entry : Entry) (excess : Nat) : Prop where
  negative : entry.IsNegative → entry.filledCells width = .ok (-(excess : Int))
  nonnegative : ¬entry.IsNegative → excess = 0

namespace Ledger

variable {ledger : Ledger} {name : WideText} {entry : Entry} {width : Nat} {line text : WideText}

/-- The line of an entry around a bar of so many cells. -/
def IsLine (cells : Nat) (entry : WideText × Entry) (line : WideText) : Prop :=
  ∃ bar, IsBar cells bar ∧ line = lineAround bar entry.1 entry.2

theorem lineAround_inj {bar other : List Char}
    (h : lineAround bar name entry = lineAround other name entry) : bar = other := by
  have hpoints := List.append_cancel_left (congrArg WideText.points h)
  have hlists := codePoints_injective hpoints
  simp only [String.toList_ofList, List.append_assoc] at hlists
  exact List.append_cancel_right (List.append_cancel_left hlists)

/-- The line tells how many cells its bar has. -/
theorem IsLine.cells_eq {cells others : Nat} {entry : WideText × Entry}
    (h : IsLine cells entry line) (h' : IsLine others entry line) : cells = others := by
  obtain ⟨bar, hbar, rfl⟩ := h
  obtain ⟨other, hother, heq⟩ := h'
  obtain rfl := lineAround_inj heq
  have hlength := hbar.length.symm.trans hother.length
  omega

section Texts

variable [Machine]

theorem lineText_eq_ok_iff (h : entry.isWritable = true) :
    lineText name entry width = .ok line ↔
      ∃ bar, entry.bar width = .ok bar ∧ lineAround bar name entry = line := by
  rw [lineText, bind_eq_ok_iff]
  simp only [h, if_true, pure, Except.pure, Except.ok.injEq]

theorem exists_isLine (hwritable : entry.isWritable = true)
    (h : lineText name entry width = .ok line) :
    ∃ excess, Exceeds width entry excess ∧ IsLine (width + excess) (name, entry) line := by
  obtain ⟨bar, hbar, rfl⟩ := (lineText_eq_ok_iff hwritable).mp h
  by_cases hnegative : entry.IsNegative
  · obtain ⟨excess, hfilled, hcells⟩ := Entry.isBar_of_negative hnegative hbar
    exact ⟨excess, ⟨fun _ => hfilled, fun h => absurd hnegative h⟩, bar, hcells, rfl⟩
  · exact ⟨0, ⟨fun h => absurd h hnegative, fun _ => rfl⟩, bar,
      Entry.isBar_of_bar hnegative hbar, rfl⟩

theorem text_eq_ok_iff (h : ledger.isEmpty = false) :
    ledger.text width = .ok text ↔
      ∃ lines, List.Forall₂ (fun entry line => lineText entry.1 entry.2 width = .ok line)
          ledger.entries lines ∧
        WideText.joinLines (↑"## Your Progress" :: ↑"" :: lines) = text := by
  rw [Ledger.text, h]
  simp only [Bool.false_eq_true, if_false, map_eq_ok_iff, mapM_eq_ok_iff]

theorem exists_text_iff (h : ledger.isEmpty = false) :
    (∃ text, ledger.text width = .ok text) ↔
      ∀ entry ∈ ledger.entries, ∃ line, lineText entry.1 entry.2 width = .ok line := by
  rw [← exists_mapM_iff]
  constructor
  · rintro ⟨text, htext⟩
    obtain ⟨lines, hlines, -⟩ := (text_eq_ok_iff h).mp htext
    exact ⟨lines, mapM_eq_ok_iff.mpr hlines⟩
  · rintro ⟨lines, hlines⟩
    exact ⟨_, (text_eq_ok_iff h).mpr ⟨lines, mapM_eq_ok_iff.mp hlines, rfl⟩⟩

section Written

variable (hsome : ledger.isEmpty = false) (hwritable : ledger.Writable)
include hsome hwritable

theorem inRange_of_text (h : ledger.text width = .ok text) :
    ∀ entry ∈ ledger.entries, entry.2.InRange := by
  intro entry hmem
  obtain ⟨line, hline⟩ := (exists_text_iff hsome).mp ⟨text, h⟩ entry hmem
  obtain ⟨bar, hbar, -⟩ := (lineText_eq_ok_iff (hwritable entry hmem)).mp hline
  exact Entry.inRange_of_bar hbar

theorem exists_text (hrange : ∀ entry ∈ ledger.entries, entry.2.InRange)
    (hnonneg : ∀ entry ∈ ledger.entries, ¬entry.2.IsNegative) (hwidth : width ≤ Machine.textLimit) :
    ∃ text, ledger.text width = .ok text := by
  refine (exists_text_iff hsome).mpr fun entry hmem => ?_
  obtain ⟨bar, hbar⟩ := Entry.exists_bar (hrange entry hmem) (hnonneg entry hmem) hwidth
  exact ⟨_, (lineText_eq_ok_iff (hwritable entry hmem)).mpr ⟨bar, hbar, rfl⟩⟩

theorem lines_of_text (h : ledger.text width = .ok text) :
    ∃ lines, text = WideText.joinLines (↑"## Your Progress" :: ↑"" :: lines) ∧
      List.Forall₂ (fun entry line => ∃ excess, Exceeds width entry.2 excess ∧
        IsLine (width + excess) entry line) ledger.entries lines := by
  obtain ⟨lines, hlines, htext⟩ := (text_eq_ok_iff hsome).mp h
  refine ⟨lines, htext.symm, ?_⟩
  refine ((List.forall₂_and_left _ _).mpr ⟨fun entry hmem => hmem, hlines⟩).imp ?_
  rintro entry line ⟨hmem, hline⟩
  exact exists_isLine (hwritable entry hmem) hline

end Written

end Texts

end Ledger
end SnippetCoach
