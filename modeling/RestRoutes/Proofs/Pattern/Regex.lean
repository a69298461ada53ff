import Mathlib.Computability.Language
import RestRoutes.Pattern.Regex

/-! The language of a regular expression.  Where an expression has neither groups nor conditions, its
outcomes are told by a language: each reads one word of it, and each word that is next is read.  This
holds of single characters, sequences and greedy repetitions. -/

namespace RestRoutes.Pattern

open scoped Computability

/-- The outcome after a word, with the given rest. -/
def Outcome.past (o : Outcome) (word rest : List Char) : Outcome :=
  ⟨word.reverse ++ o.before, rest, o.groups⟩

theorem Outcome.past_past (o : Outcome) (u v rest rest' : List Char) :
    (o.past u rest').past v rest = o.past (u ++ v) rest := by simp [Outcome.past]

theorem Outcome.past_nil (o : Outcome) : o.past [] o.after = o := rfl

theorem Outcome.position_past (o : Outcome) (word rest : List Char) :
    (o.past word rest).position = word.length + o.position := by
  simp [Outcome.past, Outcome.position]

namespace Regex

variable {a b r : Regex} {L M : Language Char}

theorem mem_distinct {o : Outcome} {os : List Outcome} : o ∈ distinct os ↔ o ∈ os := by
  induction os with
  | nil => exact Iff.rfl
  | cons p rest ih =>
    have hCons : distinct (p :: rest) = p :: (distinct rest).filter (· != p) := rfl
    by_cases h : o = p <;> simp [hCons, h, ih]

/-- An outcome is one of reading a word of a language. -/
def Reads (L : Language Char) (o e : Outcome) : Prop :=
  ∃ word ∈ L, ∃ rest, o.after = word ++ rest ∧ e = o.past word rest

/-- The outcomes of an expression are those of reading the words of a language. -/
def Denotes (r : Regex) (L : Language Char) : Prop := ∀ o e, e ∈ r.outcomes o ↔ Reads L o e

theorem Denotes.matchesAll (h : Denotes r L) (text : String) :
    r.matchesAll text = true ↔ text.toList ∈ L := by
  simp only [Regex.matchesAll, List.any_eq_true, List.isEmpty_iff]
  constructor
  · rintro ⟨e, he, hEnd⟩
    obtain ⟨word, hWord, rest, hText, rfl⟩ := (h _ e).mp he
    have hRest : rest = [] := hEnd
    have hAll : text.toList = word := by rwa [hRest, List.append_nil] at hText
    rwa [hAll]
  · intro hText
    exact ⟨_, (h _ _).mpr ⟨text.toList, hText, [], (List.append_nil _).symm, rfl⟩, rfl⟩

theorem denotes_empty : Denotes .empty 1 := by
  intro o e
  rw [outcomes, List.mem_singleton]
  constructor
  · rintro rfl
    exact ⟨[], Language.nil_mem_one, e.after, rfl, rfl⟩
  · rintro ⟨word, hWord, rest, hText, rfl⟩
    obtain rfl := (Language.mem_one word).mp hWord
    exact congrArg (o.past []) hText.symm

theorem denotes_char (c : Char) : Denotes (.one (.single .exact c)) {[c]} := by
  rintro ⟨before, after, groups⟩ e
  cases after with
  | nil =>
    refine iff_of_false List.not_mem_nil ?_
    rintro ⟨word, rfl, rest, hText, -⟩
    cases hText
  | cons d after =>
    rw [outcomes]
    constructor
    · intro he
      split at he
      · rename_i hd
        obtain rfl := (CharSet.has_single c d).mp hd
        rw [List.mem_singleton] at he
        exact ⟨[d], rfl, after, rfl, he⟩
      · cases he
    · rintro ⟨word, rfl, rest, hText, rfl⟩
      cases hText
      rw [if_pos ((CharSet.has_single _ _).mpr rfl)]
      exact List.mem_singleton_self _

theorem Denotes.seq (ha : Denotes a L) (hb : Denotes b M) : Denotes (.seq a b) (L * M) := by
  intro o e
  rw [outcomes, mem_distinct, List.mem_flatMap]
  constructor
  · rintro ⟨m, hm, he⟩
    obtain ⟨u, hu, middle, hText, rfl⟩ := (ha o m).mp hm
    obtain ⟨v, hv, rest, hMiddle, rfl⟩ := (hb _ e).mp he
    have hMiddle : middle = v ++ rest := hMiddle
    exact ⟨u ++ v, Language.append_mem_mul hu hv, rest, by simp [hText, hMiddle],
      Outcome.past_past o u v rest middle⟩
  · rintro ⟨word, hWord, rest, hText, rfl⟩
    obtain ⟨u, hu, v, hv, rfl⟩ := Language.mem_mul.mp hWord
    rw [List.append_assoc] at hText
    exact ⟨o.past u (v ++ rest), (ha o _).mpr ⟨u, hu, _, hText, rfl⟩,
      (hb _ _).mpr ⟨v, hv, rest, rfl, (Outcome.past_past o u v rest _).symm⟩⟩

/-! ### Repetitions -/

/-- Rounds without a bound read several words one after another. -/
theorem reads_of_mem_further (h : Denotes r L) {fuel : Nat} {last : Option Nat} {o e : Outcome}
    (he : e ∈ further false r.outcomes fuel none last o) : Reads L∗ o e := by
  -- Where the rounds stop, for want of fuel or since the last one did not move, no word is read.
  have hHere : Reads L∗ o o := ⟨[], Language.nil_mem_kstar L, o.after, rfl, rfl⟩
  induction fuel generalizing last o with
  | zero =>
    rw [further, List.mem_singleton] at he
    rwa [he]
  | succ fuel ih =>
    rw [further] at he
    split at he
    · rw [List.mem_singleton] at he
      rwa [he]
    · simp only [Bool.false_eq_true, if_false, mem_distinct, List.mem_append, List.mem_flatMap,
        List.mem_singleton, Option.map_none] at he
      obtain ⟨m, hm, he⟩ | rfl := he
      · obtain ⟨u, hu, middle, hText, rfl⟩ := (h o m).mp hm
        obtain ⟨v, hv, rest, hMiddle, rfl⟩ :=
          ih he ⟨[], Language.nil_mem_kstar L, _, rfl, rfl⟩
        have hMiddle : middle = v ++ rest := hMiddle
        have hWord : u ++ v ∈ L∗ :=
          Set.mem_of_mem_of_subset (Language.append_mem_mul hu hv) (mul_kstar_le_kstar (a := L))
        exact ⟨u ++ v, hWord, rest, by simp [hText, hMiddle],
          Outcome.past_past o u v rest middle⟩
      · exact hHere

/-- Words that are next are read in rounds, as each of them moves on. -/
theorem mem_further (h : Denotes r L) {words : List (List Char)}
    (hWords : ∀ word ∈ words, word ∈ L ∧ word ≠ []) {fuel : Nat} {last : Option Nat} {o : Outcome}
    {rest : List Char} (hText : o.after = words.flatten ++ rest) (hFuel : words.length ≤ fuel)
    (hLast : last ≠ some o.position) :
    o.past words.flatten rest ∈ further false r.outcomes fuel none last o := by
  -- No word is empty, so each round ends at another place than the last one and the next is tried.
  induction words generalizing fuel last o with
  | nil =>
    have hSame : o.past [] rest = o := by
      rw [← o.past_nil, hText]
      rfl
    rw [List.flatten_nil, hSame]
    cases fuel with
    | zero => exact List.mem_singleton_self o
    | succ fuel =>
      rw [further]
      split
      · exact List.mem_singleton_self o
      · simp [mem_distinct]
  | cons word words ih =>
    obtain ⟨⟨hWord, hFull⟩, hWords⟩ := List.forall_mem_cons.mp hWords
    cases fuel with
    | zero => cases hFuel
    | succ fuel =>
      rw [List.flatten_cons, List.append_assoc] at hText
      have hMoved : some o.position ≠ some (o.past word (words.flatten ++ rest)).position := by
        have hLength : 0 < word.length := List.length_pos_of_ne_nil hFull
        rw [Outcome.position_past, ne_eq, Option.some.injEq]
        omega
      have hRest := ih hWords (o := o.past word (words.flatten ++ rest)) rfl
        (Nat.le_of_succ_le_succ hFuel) hMoved
      have hStep : o.past word (words.flatten ++ rest) ∈ r.outcomes o :=
        (h o _).mpr ⟨word, hWord, _, hText, rfl⟩
      rw [further, if_neg (by simpa using hLast)]
      rw [Outcome.past_past] at hRest
      simp only [Bool.false_eq_true, if_false, mem_distinct, List.mem_append, List.mem_flatMap]
      exact .inl ⟨_, hStep, hRest⟩

theorem length_le_flatten {words : List (List Char)} (h : ∀ word ∈ words, word ≠ []) :
    words.length ≤ words.flatten.length := by
  induction words with
  | nil => simp
  | cons word words ih =>
    obtain ⟨hFull, hWords⟩ := List.forall_mem_cons.mp h
    have hLength : 0 < word.length := List.length_pos_of_ne_nil hFull
    have hRest := ih hWords
    simp only [List.length_cons, List.flatten_cons, List.length_append]
    omega

/-- A greedy repetition without bounds reads any number of words. -/
theorem Denotes.star (h : Denotes r L) : Denotes (.rep .greedy 0 none r) L∗ := by
  intro o e
  have hRounds : ∀ fuel, rounds r.outcomes fuel 0 [o] = [o] := by
    intro fuel
    cases fuel <;> rfl
  have hGreedy : (Greed.greedy == Greed.lazy) = false := rfl
  simp only [outcomes, repetition, hRounds, hGreedy, mem_distinct, List.flatMap_cons,
    List.flatMap_nil, List.append_nil, Option.map_none]
  constructor
  · exact reads_of_mem_further h
  · rintro ⟨word, hWord, rest, hText, rfl⟩
    obtain ⟨words, rfl, hWords⟩ := Language.mem_kstar_iff_exists_nonempty.mp hWord
    have hCount := length_le_flatten fun word hw => (hWords word hw).2
    have hLength : o.after.length = words.flatten.length + rest.length := by
      rw [hText, List.length_append]
    exact mem_further h hWords hText (by omega) nofun

end Regex

end RestRoutes.Pattern
