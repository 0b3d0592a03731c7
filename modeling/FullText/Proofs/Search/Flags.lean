import FullText.Search.Query

namespace FullText.Query

open Tokens

def flagNames : List String :=
  ["VERBATIM", "NOCONTENT", "NOSTOPWORDS", "WITHSCORES", "WITHPAYLOADS"]

def flagWords : Tokens := flagNames.map Token.ofString

/-- The flags that directly follow the text of the query. -/
def leadingFlags (ts : Tokens) : Tokens := ts.tail.takeWhile (· ∈ flagWords)

theorem mem_flagWords (word : String) : Token.ofString word ∈ flagWords ↔ word ∈ flagNames := by
  simp [flagWords, Token.ofString, String.toByteArray_inj]

/-- Tokens that can follow the flags without being taken for one. -/
def StartsNoFlag (ts : Tokens) : Prop := ∀ t ∈ ts.head?, t ∉ flagWords

theorem startsNoFlag_nil : StartsNoFlag [] := by
  intro t ht
  cases ht

theorem startsNoFlag_cons {word : String} (ts : Tokens) (h : word ∉ flagNames) :
    StartsNoFlag (Token.ofString word :: ts) := by
  intro t ht
  rw [List.head?_cons, Option.mem_some_iff] at ht
  subst t
  exact (not_congr (mem_flagWords word)).mpr h

theorem StartsNoFlag.append {ts us : Tokens} (ht : StartsNoFlag ts) (hu : StartsNoFlag us) :
    StartsNoFlag (ts ++ us) := by
  cases ts with
  | nil => exact hu
  | cons t ts => exact ht

theorem startsNoFlag_keyed {keyword : String} (h : keyword ∉ flagNames)
    (value : Option Token) : StartsNoFlag (keyed keyword value) := by
  cases value with
  | none => exact startsNoFlag_nil
  | some value => exact startsNoFlag_cons _ h

theorem startsNoFlag_listed {keyword : String} (h : keyword ∉ flagNames)
    (items : List String) : StartsNoFlag (listed keyword items) := by
  rw [listed]
  split
  · exact startsNoFlag_nil
  · exact startsNoFlag_cons _ h

theorem startsNoFlag_sortTokens (q : Query) : StartsNoFlag q.sortTokens := by
  rw [sortTokens]
  split
  · exact startsNoFlag_nil
  · exact startsNoFlag_cons _ (by decide)

theorem startsNoFlag_limitTokens (q : Query) : StartsNoFlag q.limitTokens := by
  rw [limitTokens]
  split
  · exact startsNoFlag_nil
  · exact startsNoFlag_cons _ (by decide)

theorem startsNoFlag_returnTokens (q : Query) : StartsNoFlag q.returnTokens := by
  rw [returnTokens]
  split
  · exact startsNoFlag_nil
  · exact startsNoFlag_cons _ (by decide)

theorem startsNoFlag_filters (fs : List Filter) : StartsNoFlag (fs.flatMap Filter.tokens) := by
  cases fs with
  | nil => exact startsNoFlag_nil
  | cons f fs => cases f <;> exact startsNoFlag_cons _ (by decide)

theorem startsNoFlag_highlight (h : Option Highlight) :
    StartsNoFlag ((h.map Highlight.tokens).getD []) := by
  cases h with
  | none => exact startsNoFlag_nil
  | some h => exact startsNoFlag_cons _ (by decide)

theorem startsNoFlag_summary (s : Option Summary) :
    StartsNoFlag ((s.map Summary.tokens).getD []) := by
  cases s with
  | none => exact startsNoFlag_nil
  | some s => exact startsNoFlag_cons _ (by decide)

theorem mem_flagTokens (q : Query) (word : String) : Token.ofString word ∈ q.flagTokens ↔
    (q.verbatim ∧ word = "VERBATIM") ∨ (q.noContent ∧ word = "NOCONTENT") ∨
      (q.noStopwords ∧ word = "NOSTOPWORDS") ∨ (q.withScores ∧ word = "WITHSCORES") ∨
      (q.withPayloads ∧ word = "WITHPAYLOADS") := by
  have hflag (given : Bool) (keyword : String) :
      Token.ofString word ∈ flag given keyword ↔ given ∧ word = keyword := by
    cases given <;> simp [flag, Token.ofString, String.toByteArray_inj]
  simp only [flagTokens, List.mem_append, hflag, or_assoc]

theorem flag_subset {keyword : String} (h : keyword ∈ flagNames) (given : Bool) :
    flag given keyword ⊆ flagWords := by
  cases given with
  | false => exact List.nil_subset _
  | true => simpa [flag] using (mem_flagWords keyword).mpr h

theorem flagTokens_subset (q : Query) : q.flagTokens ⊆ flagWords := by
  simp only [flagTokens, List.append_subset]
  refine ⟨⟨⟨⟨?_, ?_⟩, ?_⟩, ?_⟩, ?_⟩ <;> exact flag_subset (by decide) _

theorem leadingFlags_tokens (q : Query) : leadingFlags q.tokens = q.flagTokens := by
  have hrest : ∃ rest, StartsNoFlag rest ∧ q.tokens = ↑q.text :: (q.flagTokens ++ rest) := by
    refine ⟨keyed "LANGUAGE" (q.language.map .ofString) ++
      (keyed "SCORER" (q.scorer.map .ofString) ++ (listed "INFIELDS" q.inFields ++
      (q.sortTokens ++ (keyed "PAYLOAD" q.payload ++ (q.limitTokens ++
      (q.filters.flatMap Filter.tokens ++ ((q.highlight.map Highlight.tokens).getD [] ++
      ((q.summary.map Summary.tokens).getD [] ++ (listed "INKEYS" q.inKeys ++
      q.returnTokens))))))))), ?_, ?_⟩
    · refine (startsNoFlag_keyed (by decide) _).append ?_
      refine (startsNoFlag_keyed (by decide) _).append ?_
      refine (startsNoFlag_listed (by decide) _).append ?_
      refine (startsNoFlag_sortTokens q).append ?_
      refine (startsNoFlag_keyed (by decide) _).append ?_
      refine (startsNoFlag_limitTokens q).append ?_
      refine (startsNoFlag_filters q.filters).append ?_
      refine (startsNoFlag_highlight q.highlight).append ?_
      refine (startsNoFlag_summary q.summary).append ?_
      exact (startsNoFlag_listed (by decide) _).append (startsNoFlag_returnTokens q)
    · simp only [tokens, List.append_assoc, List.cons_append]
  obtain ⟨rest, hstart, htokens⟩ := hrest
  rw [leadingFlags, htokens, List.tail_cons,
    List.takeWhile_append_of_pos (by simpa using fun t ht => flagTokens_subset q ht)]
  cases rest with
  | nil => simp
  | cons t rest =>
      have ht : t ∉ flagWords := hstart t rfl
      simp [ht]

end FullText.Query
