import DocLinks.Target
import DocLinks.Proofs.Text.Trimming
import Mathlib.Data.List.TakeWhile

/-!
# Cleaning targets

A target is cleaned in two steps: percent escapes are undone first, then backslash escapes. A text
without percent signs is not changed by the first step (`Percent.decode_eq_self`), and the second step
takes back the backslashes that are written before what they can escape (`unescape_escape`).

## Contents
- `Percent.decode_eq_self`: text without percent escapes.
- `escape`, `clean_escape`: a target with its backslash escapes, cleaned again.
- `clean_ne_nil`: something is left of every target.
- `path_eq_self_iff`, `anchor?_of_no_hash`: targets without number signs.
-/

namespace DocLinks

open Text

namespace Text

/-! ## Percent escapes -/

attribute [local simp] Percent.bytes Percent.decode Utf8.decodeReplacing

theorem Percent.bytes_ne_nil (c : Char) (cs : List Char) : Percent.bytes (c :: cs) ≠ [] := by
  rw [Percent.bytes.eq_def]
  split
  · contradiction
  · split <;> exact List.cons_ne_nil _ _
  · exact List.cons_ne_nil _ _

theorem Utf8.decodeReplacing_ne_nil {bytes : List UInt8} (h : bytes ≠ []) :
    Utf8.decodeReplacing bytes ≠ [] := by
  obtain ⟨a, rest, rfl⟩ := List.exists_cons_of_ne_nil h
  rw [Utf8.decodeReplacing]
  split <;> exact List.cons_ne_nil _ _

/-- A character that is no percent sign is one byte. -/
theorem Percent.bytes_cons {c : Char} (hc : c ≠ '%') (cs : List Char) :
    Percent.bytes (c :: cs) = UInt8.ofNat c.toNat :: Percent.bytes cs := by
  rw [Percent.bytes.eq_def]
  split
  · contradiction
  · rename_i heq
    exact absurd (List.cons.inj heq).1 hc
  · rename_i heq
    obtain ⟨rfl, rfl⟩ := List.cons.inj heq
    rfl

/-- The byte of an ASCII character is read as the character. -/
theorem Utf8.next_ascii {c : Char} (hc : Percent.isAscii c = true) (rest : List UInt8) :
    Utf8.next (UInt8.ofNat c.toNat) rest = .char c 0 := by
  have hlt : c.toNat < 0x80 := by simpa [Percent.isAscii] using hc
  have hbyte : (UInt8.ofNat c.toNat).toNat = c.toNat := by
    rw [UInt8.toNat_ofNat']
    omega
  have hsmall : UInt8.ofNat c.toNat < 0x80 := by
    rw [UInt8.lt_iff_toNat_lt, hbyte]
    exact hlt
  unfold Utf8.next
  rw [if_pos hsmall, hbyte, Char.ofNat_toNat]

theorem Percent.decodeReplacing_bytes {cs : List Char} (hascii : ∀ c ∈ cs, isAscii c = true)
    (hpercent : '%' ∉ cs) : Utf8.decodeReplacing (bytes cs) = cs := by
  induction cs with
  | nil => simp
  | cons c cs ih =>
    obtain ⟨hc, hrest⟩ := not_or.1 (List.mem_cons.not.1 hpercent)
    rw [bytes_cons (Ne.symm hc), Utf8.decodeReplacing, Utf8.next_ascii (hascii c (List.mem_cons_self ..))]
    exact congrArg (c :: ·) (ih (fun d hd => hascii d (List.mem_cons_of_mem _ hd)) hrest)

/-- **Text without percent escapes** stays as it is. -/
theorem Percent.decode_eq_self {cs : List Char} (h : '%' ∉ cs) : decode cs = cs := by
  induction cs using decode.induct with
  | case1 => simp
  | case2 c cs hascii ih =>
    -- The run of ASCII characters is read as bytes, and what follows it on its own.
    have hrun : Utf8.decodeReplacing (bytes (c :: cs.takeWhile isAscii)) = c :: cs.takeWhile isAscii := by
      refine decodeReplacing_bytes ?_ fun hmem => h ?_
      · intro d hd
        rcases List.mem_cons.1 hd with rfl | hd
        · exact hascii
        · exact List.mem_takeWhile_imp hd
      · rcases List.mem_cons.1 hmem with heq | hmem
        · exact heq ▸ List.mem_cons_self ..
        · exact List.mem_cons_of_mem _ ((List.takeWhile_prefix _).mem hmem)
    have hrest : decode (cs.dropWhile isAscii) = cs.dropWhile isAscii := by
      refine ih fun hmem => h ?_
      exact List.mem_cons_of_mem _ ((List.dropWhile_suffix _).mem hmem)
    rw [decode, if_pos hascii, hrun, hrest, List.cons_append, List.takeWhile_append_dropWhile]
  | case3 c cs hascii ih =>
    rw [decode, if_neg hascii, ih fun hmem => h (List.mem_cons_of_mem _ hmem)]

end Text

namespace Target

/-! ## Backslash escapes -/

attribute [local simp] unescape

theorem unescape_ne_nil {cs : List Char} (h : cs ≠ []) : unescape cs ≠ [] := by
  rw [unescape.eq_def]
  split
  · contradiction
  · split <;> exact List.cons_ne_nil _ _
  · exact List.cons_ne_nil _ _

/-- Something is left of every target. -/
theorem clean_ne_nil {target : List Char} (h : target ≠ []) : clean target ≠ [] := by
  obtain ⟨c, cs, rfl⟩ := List.exists_cons_of_ne_nil h
  refine unescape_ne_nil ?_
  rw [Percent.decode]
  split
  · exact List.append_ne_nil_of_left_ne_nil (Utf8.decodeReplacing_ne_nil (Percent.bytes_ne_nil _ _)) _
  · exact List.cons_ne_nil _ _

/-- A text with a backslash before every character that a backslash can escape. -/
def escape : List Char → List Char
  | [] => []
  | c :: cs => if isEscapable c then '\\' :: c :: escape cs else c :: escape cs

attribute [local simp] escape

theorem unescape_cons {c : Char} (hc : c ≠ '\\') (cs : List Char) :
    unescape (c :: cs) = c :: unescape cs := by
  rw [unescape.eq_def]
  split
  · contradiction
  · rename_i heq
    exact absurd (List.cons.inj heq).1 hc
  · rename_i heq
    obtain ⟨rfl, rfl⟩ := List.cons.inj heq
    rfl

/-- **Backslash escapes are undone.** -/
theorem unescape_escape {cs : List Char} (h : '\\' ∉ cs) : unescape (escape cs) = cs := by
  induction cs with
  | nil => simp
  | cons c cs ih =>
    obtain ⟨hc, hrest⟩ := not_or.1 (List.mem_cons.not.1 h)
    unfold escape
    by_cases hescapable : isEscapable c = true
    · rw [if_pos hescapable, unescape, if_pos hescapable, ih hrest]
    · rw [if_neg hescapable, unescape_cons (Ne.symm hc), ih hrest]

/-- Escapes are written with backslashes. -/
theorem mem_escape {cs : List Char} {c : Char} (h : c ∈ escape cs) : c = '\\' ∨ c ∈ cs := by
  induction cs with
  | nil => cases h
  | cons d cs ih =>
    unfold escape at h
    split at h
    · rcases List.mem_cons.1 h with rfl | h
      · exact .inl rfl
      · rcases List.mem_cons.1 h with rfl | h
        · exact .inr (List.mem_cons_self ..)
        · exact (ih h).imp_right (List.mem_cons_of_mem d)
    · rcases List.mem_cons.1 h with rfl | h
      · exact .inr (List.mem_cons_self ..)
      · exact (ih h).imp_right (List.mem_cons_of_mem d)

theorem escape_ne_nil {cs : List Char} (h : cs ≠ []) : escape cs ≠ [] := by
  obtain ⟨c, cs, rfl⟩ := List.exists_cons_of_ne_nil h
  unfold escape
  split <;> exact List.cons_ne_nil _ _

theorem head?_escape {cs : List Char} {c : Char} (h : (escape cs).head? = some c) :
    c = '\\' ∨ cs.head? = some c := by
  rcases cs with _ | ⟨d, cs⟩
  · cases h
  · unfold escape at h
    split at h
    · exact .inl (Option.some.inj h).symm
    · exact .inr h

/-- An escaped text ends in its last character. -/
theorem getLast?_escape (cs : List Char) : (escape cs).getLast? = cs.getLast? := by
  induction cs with
  | nil => rfl
  | cons c cs ih =>
    rcases cs with _ | ⟨d, cs⟩
    · unfold escape
      split <;> rfl
    · have hne : escape (d :: cs) ≠ [] := escape_ne_nil (List.cons_ne_nil d cs)
      rw [List.getLast?_cons_cons, ← ih, escape]
      split
      · rw [List.getLast?_cons_of_ne_nil (List.cons_ne_nil _ _), List.getLast?_cons_of_ne_nil hne]
      · rw [List.getLast?_cons_of_ne_nil hne]

/-- The ends of a text that is trimmed are no blanks when they are escaped. -/
theorem trim_escape {cs : List Char} (h : trim cs = cs) : trim (escape cs) = escape cs := by
  obtain ⟨hhead, hlast⟩ := trim_eq_iff.1 h
  refine trim_eq_iff.2 ⟨?_, ?_⟩
  · intro c hc
    rcases head?_escape hc with rfl | hc
    · decide
    · exact hhead c hc
  · rwa [getLast?_escape]

/-- **An escaped target is cleaned** to the target. -/
theorem clean_escape {cs : List Char} (hbackslash : '\\' ∉ cs) (hpercent : '%' ∉ cs) :
    clean (escape cs) = cs := by
  have hnone : '%' ∉ escape cs := by
    intro hmem
    rcases mem_escape hmem with heq | hmem
    · cases heq
    · exact hpercent hmem
  rw [clean, Percent.decode_eq_self hnone, unescape_escape hbackslash]

/-! ## Cutting -/

/-- A target is its own path exactly if it holds no number sign. -/
theorem path_eq_self_iff {target : List Char} : path target = target ↔ '#' ∉ target := by
  unfold path
  rw [List.takeWhile_eq_self_iff]
  constructor
  · intro h hmem
    simpa using h '#' hmem
  · intro h c hc
    simpa using fun heq : c = '#' => h (heq ▸ hc)

/-- A target without number signs has no anchor. -/
theorem anchor?_of_no_hash {target : List Char} (h : '#' ∉ target) : anchor? target = none := by
  have hnone : target.dropWhile (· != '#') = [] := by
    rw [List.dropWhile_eq_nil_iff]
    intro c hc
    simpa using fun heq : c = '#' => h (heq ▸ hc)
  unfold anchor?
  rw [hnone]

end Target

end DocLinks
