import DocLinks.Redirect.File
import DocLinks.Proofs.Text.Cutting
import DocLinks.Proofs.Text.Trimming

/-!
# Entries in the block of redirects

What reading the redirects of a text finds, and what it finds after entries were recorded in it. The
writer and the reader of the block stop at the same lines: new lines come into a gap that the reader of
the block does not end before (`exists_gap`), so it reads the old entries before the gap, what the new
lines say, and the old entries behind it (`Gap.exists_pairsOf`). What a new line says is its own pair
exactly if the source is a key and the destination has no outer blanks (`parsePair?_entryLine_iff`).

What stands around the block is not read. The lines before it have no say but for their number, which
the lines of the entries are counted on from; the line that ends it and everything behind that have none
at all, not even another opening line (`parseEntries_isolated`).

## Contents
- `RedirectEntry.pair`, `parsePair?`, `pairsOf`: entries by their own words, without their lines.
- `SaysEntry`: the lines that say entries.
- `exists_line_of_entry`, `pairwise_line_parseEntries`: every entry stands on a line of its own.
- `IsKey`, `RedirectPair.Recordable`: what a line of the block can say.
- `Gap`: the places where new entries go.
- `StartsVisibly`, `HasBlock`: the block of a text, and what stands around it.
-/

namespace DocLinks

open Text

/-- An entry by its own words. -/
def RedirectEntry.pair (e : RedirectEntry) : RedirectPair := ⟨e.rawFrom, e.rawTo⟩

namespace Redirect

/-- The pair that a line says, if it is an entry. -/
def parsePair? (line : List Char) : Option RedirectPair :=
  (parseSides? line).map fun (source, destination) => ⟨.ofList source, .ofList destination⟩

/-- The lines of the block without their numbers. -/
def bodyOf (lines : List (List Char)) : List (List Char) :=
  ((lines.dropWhile (!isMarker ·)).drop 1).takeWhile (!endsBlock ·)

/-- The pairs that the lines of a configuration say. -/
def pairsOf (lines : List (List Char)) : List RedirectPair := (bodyOf lines).filterMap parsePair?

/-! ## Entry lines -/

/-- A line that says an entry: two blanks, something up to the first colon behind them, and something
behind that colon. What is said are both sides without their outer blanks. -/
inductive SaysEntry : (line source destination : List Char) → Prop
  | sides {a b : Char} {key value : List Char} (ha : isBlank a = true) (hb : isBlank b = true)
      (hkey : key ≠ []) (hcolon : ':' ∉ key) (hvalue : value ≠ []) :
      SaysEntry (a :: b :: (key ++ ':' :: value)) (trim key) (trim value)

/-- **Entries are read** from the lines that say them, and from no others. -/
theorem parseSides?_eq_some_iff {line source destination : List Char} :
    parseSides? line = some (source, destination) ↔ SaysEntry line source destination := by
  constructor
  · intro h
    unfold parseSides? at h
    split at h
    · rename_i a b rest
      split at h
      · rename_i c value hdrop
        simp only at h
        split at h
        · rename_i hcond
          simp only [Bool.and_eq_true, Bool.not_eq_true', List.isEmpty_eq_false_iff] at hcond
          obtain ⟨⟨⟨ha, hb⟩, hkey⟩, hvalue⟩ := hcond
          obtain rfl : c = ':' := by simpa using head_of_dropWhile_eq_cons hdrop
          have hcolon : ':' ∉ rest.takeWhile (· != ':') := fun hmem => by
            simpa using all_takeWhile (· != ':') rest ':' hmem
          have hrest := takeWhile_append_dropWhile_cons hdrop
          cases h
          generalize rest.takeWhile (· != ':') = key at hrest hkey hcolon ⊢
          subst hrest
          exact .sides ha hb hkey hcolon hvalue
        · cases h
      · cases h
    · cases h
  · rintro ⟨ha, hb, hkey, hcolon, hvalue⟩
    rename_i a b key value
    have hall : ∀ c ∈ key, (c != ':') = true := fun c hc => by
      simpa using fun h : c = ':' => hcolon (h ▸ hc)
    have hstop : (':' != ':') = false := by decide
    unfold parseSides?
    simp [takeWhile_append_cons hall hstop, dropWhile_append_cons hall hstop, ha, hb, hkey, hvalue]

/-! ## Entries and their lines -/

theorem numberFrom_filterMap_pair (n : Nat) (lines : List (List Char)) :
    ((numberFrom n lines).filterMap parseEntry?).map RedirectEntry.pair
      = lines.filterMap parsePair? := by
  have hentry : (fun numbered => Option.map RedirectEntry.pair <| parseEntry? numbered)
      = parsePair? ∘ Prod.snd := funext fun _ => Option.map_map ..
  rw [List.map_filterMap, hentry, ← List.filterMap_map, map_snd_numberFrom]

/-- The numbered lines of the block are its lines, numbered from behind the opening line. -/
theorem blockLines_numberFrom (n : Nat) (lines : List (List Char)) :
    blockLines (numberFrom n lines)
      = numberFrom (n + (lines.takeWhile (!isMarker ·)).length + 1) (bodyOf lines) := by
  unfold blockLines bodyOf
  rw [dropWhile_numberFrom (!isMarker ·) n lines]
  rcases lines.dropWhile (!isMarker ·) with _ | ⟨l, ls⟩
  · rfl
  · exact takeWhile_numberFrom (!endsBlock ·) _ ls

/-- **The entries of a text** by their own words are those that its lines say. -/
theorem map_pair_parseEntries (content : String) :
    (parseEntries content).map RedirectEntry.pair = pairsOf (linesOf content) := by
  unfold parseEntries
  rw [blockLines_numberFrom, numberFrom_filterMap_pair]
  rfl

theorem blockLines_sublist (numbered : List (Nat × List Char)) :
    (blockLines numbered).Sublist numbered :=
  (List.takeWhile_sublist _).trans ((List.drop_sublist _ _).trans (List.dropWhile_sublist _))

/-- **An entry stands on its line**: that line of the text says what the entry says. -/
theorem exists_line_of_entry {content : String} {e : RedirectEntry} (h : e ∈ parseEntries content) :
    ∃ (i : Nat) (line : List Char), e.line = i + 1 ∧ (linesOf content)[i]? = some line ∧
      parsePair? line = some e.pair := by
  obtain ⟨⟨n, line⟩, hmem, hentry⟩ := List.mem_filterMap.1 h
  obtain ⟨i, hi⟩ := List.mem_iff_getElem?.1 ((blockLines_sublist _).mem hmem)
  rw [getElem?_numberFrom] at hi
  obtain ⟨a, ha, hnumbered⟩ := Option.map_eq_some_iff.1 hi
  obtain ⟨rfl, rfl⟩ := Prod.mk.inj hnumbered
  obtain ⟨⟨source, destination⟩, hsides, rfl⟩ := Option.map_eq_some_iff.1 hentry
  refine ⟨i, a, Nat.add_comm 1 i, ha, ?_⟩
  unfold parsePair?
  rw [hsides]
  rfl

/-- The entries of a text are on different lines, in the order of the lines. -/
theorem pairwise_line_parseEntries (content : String) :
    (parseEntries content).Pairwise fun d e => d.line < e.line := by
  refine List.Pairwise.filterMap parseEntry? (fun a b hlt d hd e he => ?_)
    ((pairwise_numberFrom 1 (linesOf content)).sublist (blockLines_sublist _))
  obtain ⟨_, _, rfl⟩ := Option.map_eq_some_iff.1 hd
  obtain ⟨_, _, rfl⟩ := Option.map_eq_some_iff.1 he
  exact hlt

/-! ## What a line can say -/

/-- A source under which a redirect can be found again. -/
def IsKey (source : String) : Prop := source ≠ "" ∧ ':' ∉ source.toList ∧ strip source = source

instance (source : String) : Decidable (IsKey source) := inferInstanceAs (Decidable (_ ∧ _ ∧ _))

/-- A line with a key says the key, and what follows the colon without its outer blanks. -/
theorem parsePair?_entryLine {p : RedirectPair} (hne : p.source ≠ "") (hcolon : ':' ∉ p.source.toList) :
    parsePair? (entryLine p) = some ⟨strip p.source, strip p.destination⟩ := by
  have hkey : p.source.toList ≠ [] := fun h => hne (String.toList_eq_nil_iff.1 h)
  have hblank : isBlank ' ' = true := by decide
  have hsays : SaysEntry (entryLine p) (trim p.source.toList) (trim p.destination.toList) :=
    .sides hblank hblank hkey hcolon (List.cons_ne_nil ' ' _)
  unfold parsePair?
  rw [parseSides?_eq_some_iff.2 hsays]
  rfl

/-- The parts of a line that is an entry. -/
theorem parsePair?_eq_some {line : List Char} {q : RedirectPair} (h : parsePair? line = some q) :
    ∃ a b key value, line = a :: b :: (key ++ ':' :: value) ∧ key ≠ [] ∧ ':' ∉ key ∧
      q = ⟨.ofList (trim key), .ofList (trim value)⟩ := by
  obtain ⟨⟨source, destination⟩, hsides, rfl⟩ := Option.map_eq_some_iff.1 h
  obtain ⟨_, _, hkey, hcolon, _⟩ := parseSides?_eq_some_iff.1 hsides
  exact ⟨_, _, _, _, rfl, hkey, hcolon, rfl⟩

/-- What a line says is trimmed, its source holds no colon, and it holds what the line holds. -/
theorem trimmed_of_parsePair? {line : List Char} {q : RedirectPair} (h : parsePair? line = some q) :
    ':' ∉ q.source.toList ∧ strip q.source = q.source ∧ strip q.destination = q.destination ∧
      ∀ c, c ∈ q.source.toList ∨ c ∈ q.destination.toList → c ∈ line := by
  obtain ⟨_, _, key, value, rfl, _, hcolon, rfl⟩ := parsePair?_eq_some h
  simp only [String.toList_ofList, strip, trim_trim, true_and]
  refine ⟨fun hmem => hcolon ((trim_sublist key).mem hmem), fun c hc => ?_⟩
  rcases hc with hc | hc
  · have := (trim_sublist key).mem hc
    simp [this]
  · have := (trim_sublist value).mem hc
    simp [this]

/-- A line without a source is no entry. -/
theorem ne_empty_of_parsePair?_entryLine {p q : RedirectPair} (h : parsePair? (entryLine p) = some q) :
    p.source ≠ "" := by
  intro hempty
  obtain ⟨a, b, key, value, hline, hkey, hnot, _⟩ := parsePair?_eq_some h
  unfold entryLine at hline
  rcases key with _ | ⟨c, key⟩
  · exact hkey rfl
  · simp only [hempty, String.toList_empty, List.nil_append, List.cons_append, List.cons.injEq] at hline
    exact hnot (hline.2.2.1 ▸ List.mem_cons_self ..)

/-- **A line says its own pair** exactly if the source is a key and the destination is trimmed. -/
theorem parsePair?_entryLine_iff {p : RedirectPair} :
    parsePair? (entryLine p) = some p ↔ IsKey p.source ∧ strip p.destination = p.destination := by
  constructor
  · intro h
    obtain ⟨hcolon, hsource, hdestination, _⟩ := trimmed_of_parsePair? h
    exact ⟨⟨ne_empty_of_parsePair?_entryLine h, hcolon, hsource⟩, hdestination⟩
  · rintro ⟨⟨hne, hcolon, hsource⟩, hdestination⟩
    rw [parsePair?_entryLine hne hcolon, hsource, hdestination]

end Redirect

/-- A redirect that a line of the block can say: the source is a key, the destination has no outer
blanks, and both are on one line. -/
def RedirectPair.Recordable (p : RedirectPair) : Prop :=
  Redirect.IsKey p.source ∧ strip p.destination = p.destination ∧
    '\n' ∉ p.source.toList ∧ '\n' ∉ p.destination.toList

instance (p : RedirectPair) : Decidable p.Recordable :=
  inferInstanceAs (Decidable (_ ∧ _ ∧ _ ∧ _))

namespace Redirect

theorem newline_not_mem_entryLine {p : RedirectPair} (hsource : '\n' ∉ p.source.toList)
    (hdestination : '\n' ∉ p.destination.toList) : '\n' ∉ entryLine p := by
  simp [entryLine, hsource, hdestination]

theorem filterMap_entryLine {pairs : List RedirectPair} (h : ∀ p ∈ pairs, p.Recordable) :
    (pairs.map entryLine).filterMap parsePair? = pairs := by
  rw [List.filterMap_map]
  refine (List.filterMap_congr fun p hp => ?_).trans List.filterMap_some
  exact parsePair?_entryLine_iff.2 ⟨(h p hp).1, (h p hp).2.1⟩

/-! ## Where entries go -/

/-- A place where entries are recorded: the lines before it, the lines that are written there in front
of the new ones, and the lines behind it. -/
inductive Gap : (front head back : List (List Char)) → Prop
  /-- In the block, where its reader has not come to an end. -/
  | inBlock {before body back : List (List Char)} {opening : List Char}
      (hbefore : ∀ l ∈ before, isMarker l = false) (hopening : isMarker opening = true)
      (hbody : ∀ l ∈ body, endsBlock l = false) :
      Gap (before ++ opening :: body) [] back
  /-- At the end of a text that has no block. -/
  | atEnd {front back : List (List Char)} (hfront : ∀ l ∈ front, isMarker l = false)
      (hback : ∀ l ∈ back, l = []) : Gap front [[], marker] back

theorem bodyOf_block {before : List (List Char)} (hbefore : ∀ l ∈ before, isMarker l = false)
    {opening : List Char} (hopening : isMarker opening = true) (rest : List (List Char)) :
    bodyOf (before ++ opening :: rest) = rest.takeWhile (!endsBlock ·) := by
  unfold bodyOf
  rw [dropWhile_append_cons (fun l hl => by rw [hbefore l hl]; rfl) (by rw [hopening]; rfl)]
  rfl

theorem bodyOf_of_no_marker {lines : List (List Char)} (h : ∀ l ∈ lines, isMarker l = false) :
    bodyOf lines = [] := by
  unfold bodyOf
  rw [List.dropWhile_eq_nil_iff.2 fun l hl => by rw [h l hl]; rfl]
  rfl

/-- **Reading around a gap.** The old entries before the gap and behind it are read as before, and
between them what the new lines say, if none of these ends the block. -/
theorem Gap.exists_pairsOf {front head back : List (List Char)} (h : Gap front head back) :
    ∃ before after, pairsOf (front ++ back) = before ++ after ∧
      ∀ new : List (List Char), (∀ l ∈ new, endsBlock l = false) →
        pairsOf (front ++ (head ++ new) ++ back) = before ++ new.filterMap parsePair? ++ after := by
  unfold pairsOf
  cases h with
  | @inBlock before body _ opening hbefore hopening hbody =>
    -- The reader comes through the body to the gap, whatever stands there.
    have htake : ∀ rest : List (List Char), (body ++ rest).takeWhile (!endsBlock ·)
        = body ++ rest.takeWhile (!endsBlock ·) := fun rest =>
      List.takeWhile_append_of_pos fun l hl => by rw [hbody l hl]; rfl
    refine ⟨body.filterMap parsePair?, (back.takeWhile (!endsBlock ·)).filterMap parsePair?, ?_,
      fun new hnew => ?_⟩
    · rw [List.append_assoc, List.cons_append, bodyOf_block hbefore hopening, htake,
        List.filterMap_append]
    · rw [List.append_assoc, List.append_assoc, List.cons_append, bodyOf_block hbefore hopening,
        htake, List.nil_append, List.takeWhile_append_of_pos fun l hl => by rw [hnew l hl]; rfl]
      simp only [List.filterMap_append, List.append_assoc]
  | atEnd hfront hback =>
    -- There was nothing to read, and the empty lines behind the gap say nothing.
    have hnone : ∀ l ∈ back, isMarker l = false := fun l hl => by rw [hback l hl]; rfl
    have hrest : (back.takeWhile (!endsBlock ·)).filterMap parsePair? = [] :=
      List.filterMap_eq_nil_iff.2 fun l hl => by
        rw [hback l ((List.takeWhile_sublist _).mem hl)]
        rfl
    refine ⟨[], [], ?_, fun new hnew => ?_⟩
    · rw [bodyOf_of_no_marker fun l hl => (List.mem_append.1 hl).elim (hfront l) (hnone l)]
      rfl
    · have hlines : front ++ ([[], marker] ++ new) ++ back
          = (front ++ [[]]) ++ marker :: (new ++ back) := by simp
      have hbefore : ∀ l ∈ front ++ [[]], isMarker l = false := by
        intro l hl
        rcases List.mem_append.1 hl with hl | hl
        · exact hfront l hl
        · rw [List.mem_singleton.1 hl]
          rfl
      rw [hlines, bodyOf_block hbefore (by decide),
        List.takeWhile_append_of_pos fun l hl => by rw [hnew l hl]; rfl, List.filterMap_append, hrest]
      rfl

/-! ## The writer -/

theorem endsBlock_of_looksLikeEntry {l : List Char} (h : looksLikeEntry l = true) :
    endsBlock l = false := by
  unfold looksLikeEntry at h
  split at h
  · simp only [Bool.and_eq_true] at h
    simp [endsBlock, h.1.1]
  · cases h

/-- The writer does not go beyond the end of the block. -/
theorem endsBlock_of_mem_take {ls : List (List Char)} :
    ∀ l ∈ ls.take (upToLastEntry ls), endsBlock l = false := by
  -- A line that is no entry is gone past only if an entry follows before the block ends.
  fun_induction upToLastEntry ls with
  | case1 => simp
  | case2 l ls hlooks ih =>
    intro k hk
    rcases List.mem_cons.1 hk with rfl | hk
    · exact endsBlock_of_looksLikeEntry hlooks
    · exact ih k hk
  | case3 l ls _ hends => simp
  | case4 l ls _ hends hzero ih => simp
  | case5 l ls _ hends n hn ih =>
    intro k hk
    rw [hn] at ih
    rcases List.mem_cons.1 hk with rfl | hk
    · simpa using hends
    · exact ih k hk

theorem eq_nil_of_mem_drop_endOfText {lines : List (List Char)} :
    ∀ l ∈ lines.drop (endOfText lines), l = [] := by
  unfold endOfText
  split
  · rename_i hlast
    obtain ⟨front, rfl⟩ := List.getLast?_eq_some_iff.1 hlast
    simp
  · simp

/-- **Where the writer puts entries.** Recording inserts the lines of the entries in a gap of the
lines, behind an opening line if there is none. -/
theorem exists_gap (lines : List (List Char)) :
    ∃ front back, lines = front ++ back ∧
      Gap front (if lines.any isMarker then [] else [[], marker]) back ∧
      ∀ pairs, insertEntries pairs lines = front ++
        ((if lines.any isMarker then [] else [[], marker]) ++ pairs.map entryLine) ++ back := by
  rcases hfind : lines.findIdx? isMarker with _ | i
  · -- A block of its own is written behind the text.
    have hnone : ∀ l ∈ lines, isMarker l = false := List.findIdx?_eq_none_iff.1 hfind
    have hany : lines.any isMarker = false := List.any_eq_false.2 fun l hl => by simp [hnone l hl]
    refine ⟨lines.take (endOfText lines), lines.drop (endOfText lines),
      (List.take_append_drop ..).symm, ?_, fun pairs => ?_⟩
    · rw [if_neg (by simp [hany])]
      exact .atEnd (fun l hl => hnone l (List.mem_of_mem_take hl)) eq_nil_of_mem_drop_endOfText
    · simp only [insertEntries, hfind, hany]
      rfl
  · -- Writer and reader take the same line for the opening one: the first marker.
    obtain ⟨hlt, hmarker, hfirst⟩ := List.findIdx?_eq_some_iff_getElem.1 hfind
    have hany : lines.any isMarker = true := List.any_eq_true.2 ⟨_, List.getElem_mem hlt, hmarker⟩
    let n := upToLastEntry (lines.drop (i + 1))
    have hfront : lines.take (i + 1 + n)
        = lines.take i ++ lines[i] :: (lines.drop (i + 1)).take n := by
      rw [List.take_add, List.take_succ_eq_append_getElem hlt, List.append_assoc]
      rfl
    refine ⟨lines.take (i + 1 + n), lines.drop (i + 1 + n), (List.take_append_drop ..).symm, ?_,
      fun pairs => ?_⟩
    · rw [if_pos hany, hfront]
      refine .inBlock (fun l hl => ?_) hmarker endsBlock_of_mem_take
      obtain ⟨j, hj, rfl⟩ := List.mem_take_iff_getElem.1 hl
      simpa using hfirst j (by omega)
    · simp only [insertEntries, hfind, if_pos hany]
      rfl

/-! ## The block alone -/

/-- A line that starts with a visible character. -/
def StartsVisibly (line : List Char) : Prop := ∃ c rest, line = c :: rest ∧ isBlank c = false

theorem endsBlock_iff {line : List Char} : endsBlock line = true ↔ StartsVisibly line := by
  unfold endsBlock StartsVisibly
  rcases line with _ | ⟨c, rest⟩ <;> simp

instance (line : List Char) : Decidable (StartsVisibly line) := decidable_of_iff _ endsBlock_iff

/-- A text whose block has the given lines, with the given lines before it. The block is opened by the
first line that says so, and is ended by a line that starts visibly, or with the text. -/
inductive HasBlock (content : String) (before body : List (List Char)) : Prop
  | block (opening : List Char) (after : List (List Char))
      (hlines : linesOf content = before ++ opening :: (body ++ after))
      (hbefore : ∀ l ∈ before, trim l ≠ marker) (hopening : trim opening = marker)
      (hbody : ∀ l ∈ body, ¬StartsVisibly l) (hafter : ∀ l ∈ after.head?, StartsVisibly l)

variable {content : String} {before body : List (List Char)}

/-- **The block is found where it is**: behind the opening line, up to the line that ends it. -/
theorem parseEntries_of_hasBlock (h : HasBlock content before body) :
    parseEntries content = (numberFrom (before.length + 2) body).filterMap parseEntry? := by
  obtain ⟨opening, after, hlines, hbefore, hopening, hbody, hafter⟩ := h
  have hpassed : ∀ l ∈ before, (!isMarker l) = true := by
    intro l hl
    simpa [isMarker] using hbefore l hl
  have hopens : (!isMarker opening) = false := by simpa [isMarker] using hopening
  have htaken : ∀ l ∈ body, (!endsBlock l) = true := by
    intro l hl
    simpa [← endsBlock_iff] using hbody l hl
  -- Nothing behind the block is taken, since it begins with a line that ends the block.
  have hended : after.takeWhile (!endsBlock ·) = [] := by
    rcases after with _ | ⟨l, ls⟩
    · rfl
    · have hl : endsBlock l = true := endsBlock_iff.2 (hafter l rfl)
      rw [List.takeWhile_cons_of_neg (by simp [hl])]
  have hblock : bodyOf (linesOf content) = body := by
    rw [hlines, bodyOf_block (fun l hl => by simpa using hpassed l hl) (by simpa using hopens),
      List.takeWhile_append_of_pos htaken, hended, List.append_nil]
  have hcount : ((linesOf content).takeWhile (!isMarker ·)).length = before.length := by
    rw [hlines, takeWhile_append_cons hpassed hopens]
  have hnumber : 1 + before.length + 1 = before.length + 2 := by omega
  unfold parseEntries
  rw [blockLines_numberFrom, hblock, hcount, hnumber]

theorem mem_entries_iff {n : Nat} {e : RedirectEntry} :
    e ∈ (numberFrom n body).filterMap parseEntry? ↔ ∃ i line source destination,
      body[i]? = some line ∧ SaysEntry line source destination ∧
        e = entryOf (n + i) source destination := by
  rw [List.mem_filterMap]
  constructor
  · rintro ⟨numbered, hmem, hentry⟩
    obtain ⟨i, hi⟩ := List.mem_iff_getElem?.1 hmem
    rw [getElem?_numberFrom] at hi
    obtain ⟨line, hline, rfl⟩ := Option.map_eq_some_iff.1 hi
    obtain ⟨⟨source, destination⟩, hsides, rfl⟩ := Option.map_eq_some_iff.1 hentry
    exact ⟨i, line, source, destination, hline, parseSides?_eq_some_iff.1 hsides, rfl⟩
  · rintro ⟨i, line, source, destination, hline, hsays, rfl⟩
    have hnumbered : (numberFrom n body)[i]? = some (n + i, line) := by
      rw [getElem?_numberFrom, hline]
      rfl
    refine ⟨(n + i, line), List.mem_iff_getElem?.2 ⟨i, hnumbered⟩, ?_⟩
    exact Option.map_eq_some_iff.2 ⟨(source, destination), parseSides?_eq_some_iff.2 hsays, rfl⟩

/-- The entries of lines that are numbered from a later line are the same, on later lines. -/
theorem filterMap_parseEntry?_add (n k : Nat) (lines : List (List Char)) :
    (numberFrom (n + k) lines).filterMap parseEntry?
      = ((numberFrom n lines).filterMap parseEntry?).map fun e => { e with line := e.line + k } := by
  rw [numberFrom_add, List.filterMap_map, List.map_filterMap]
  refine List.filterMap_congr fun numbered _ => ?_
  unfold parseEntry?
  rw [Option.map_map]
  rfl

/-- **Only the block matters.** In another text whose block has the same lines the same entries are read,
and if there are `n` lines more before the block, each entry is `n` lines further down. The entries are
what the lines of the block say that say an entry, in their order. -/
theorem parseEntries_isolated (h : HasBlock content before body) :
    (∀ (other : String) (before' : List (List Char)) (n : Nat), HasBlock other before' body →
      before'.length = before.length + n →
        parseEntries other = (parseEntries content).map fun e => { e with line := e.line + n }) ∧
    (parseEntries content).Pairwise (fun d e => d.line < e.line) ∧
    ∀ e, e ∈ parseEntries content ↔ ∃ i line source destination,
      body[i]? = some line ∧ SaysEntry line source destination ∧
        e = entryOf (before.length + 2 + i) source destination := by
  have hentries := parseEntries_of_hasBlock h
  refine ⟨?_, pairwise_line_parseEntries content, ?_⟩
  · intro other before' n hother hlength
    have hnumber : before'.length + 2 = before.length + 2 + n := by omega
    rw [parseEntries_of_hasBlock hother, hnumber, filterMap_parseEntry?_add, hentries]
  · intro e
    rw [hentries]
    exact mem_entries_iff

/-- The lines of a block: an entry that ends in a carriage return, an empty line, an entry that is indented
further and says a colon, and a line that would open a block. -/
def mixedBody : List (List Char) :=
  ["  x/y : z.md\r".toList, [], "   w::v".toList, " redirects:".toList]

/-- These lines as a block in the middle of a text, with another block behind it. -/
def middleBlock : String :=
  "a: b\nredirects:\n  x/y : z.md\r\n\n   w::v\n redirects:\nend:\nredirects:\n  p: q"

/-- These lines as a block at the end of a text, with an entry outside of it. -/
def lastBlock : String :=
  "\n  p: q\n# r\n\tredirects:\r\n  x/y : z.md\r\n\n   w::v\n redirects:"

theorem parseEntries_isolated_mixedBody :
    HasBlock middleBlock ["a: b".toList] mixedBody ∧
      HasBlock lastBlock [[], "  p: q".toList, "# r".toList] mixedBody ∧
      parseEntries lastBlock
        = (parseEntries middleBlock).map (fun e => { e with line := e.line + 2 }) ∧
      SaysEntry "   w::v".toList "w".toList ":v".toList ∧
      entryOf 5 "w".toList ":v".toList ∈ parseEntries middleBlock := by
  have hmiddle : HasBlock middleBlock ["a: b".toList] mixedBody :=
    .block "redirects:".toList ["end:".toList, "redirects:".toList, "  p: q".toList]
      (by decide +kernel) (by decide +kernel) (by decide +kernel) (by decide +kernel)
      fun _ hl => Option.some.inj hl ▸ by decide
  have hlast : HasBlock lastBlock [[], "  p: q".toList, "# r".toList] mixedBody :=
    .block "\tredirects:\r".toList [] (by decide +kernel) (by decide +kernel) (by decide +kernel)
      (by decide +kernel) nofun
  have hsays : SaysEntry "   w::v".toList "w".toList ":v".toList :=
    parseSides?_eq_some_iff.1 (by decide +kernel)
  obtain ⟨hshifted, -, hmem⟩ := parseEntries_isolated hmiddle
  exact ⟨hmiddle, hlast, hshifted lastBlock _ 2 hlast rfl, hsays,
    (hmem _).2 ⟨2, _, _, _, rfl, hsays, rfl⟩⟩

end Redirect

end DocLinks
