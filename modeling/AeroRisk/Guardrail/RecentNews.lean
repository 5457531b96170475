import AeroRisk.Guardrail.NewsIngester

/-!
# Recent news and their sentiment

For a positive limit the recent news are the first ones of the search which are
recent, however many results cannot be read.  Only a result without a payload,
reached before the limit, loses them all.  The summary of a symbol counts its
recent news, unless one of them has no text as its sentiment.
-/

namespace AeroRisk.Guardrail.Agent2.NewsIngester

open AeroRisk.Event
open AeroRisk.Library

variable (format : NewsFormat)

/-- The results before the first one which has no payload. -/
def readable (results : List SearchResult) : List SearchResult :=
  results.takeWhile fun result => result.payload.isSome

/-- The item of a result, if it can be read and is recent. -/
def itemOf (cutoff : Int) (result : SearchResult) : Option NewsItem :=
  match result.payload with
  | none => none
  | some payload =>
      match recentItem format cutoff payload result.score with
      | .ok found => found
      | .error _ => none

/-- The recent items of some results. -/
def itemsOf (cutoff : Int) (results : List SearchResult) : List NewsItem :=
  results.filterMap (itemOf format cutoff)

variable {format} {cutoff limit : Int}

theorem itemsOf_cons (result : SearchResult) (rest : List SearchResult) :
    itemsOf format cutoff (result :: rest) =
      (itemOf format cutoff result).toList ++ itemsOf format cutoff rest := by
  rw [itemsOf]
  cases found : itemOf format cutoff result with
  | none => rw [List.filterMap_cons_none found]; rfl
  | some item => rw [List.filterMap_cons_some found]; rfl

/--
The loop stops at the limit, at a result without a payload, or at the end of
the results.
-/
theorem filterRecent_eq (results : List SearchResult)
    {filtered : List NewsItem} (below : filtered.length < limit) :
    filterRecent format cutoff limit results filtered =
      if limit ≤ (filtered ++ itemsOf format cutoff (readable results)).length ∨
          ∀ result ∈ results, result.payload.isSome = true then
        .ok
          ((filtered ++ itemsOf format cutoff (readable results)).take
            limit.toNat)
      else
        .error "'NoneType' object has no attribute 'get'" := by
  induction results generalizing filtered with
  | nil =>
      have whole : filtered.take limit.toNat = filtered :=
        List.take_of_length_le (by omega)
      have nothing : itemsOf format cutoff (readable []) = [] := rfl
      rw [nothing, List.append_nil, whole, if_pos (.inr (by simp))]
      rfl
  | cons result rest inductionHypothesis =>
      rw [filterRecent]
      cases isPayload : result.payload with
      | none =>
          have nothing :
              itemsOf format cutoff (readable (result :: rest)) = [] := by
            rw [readable, List.takeWhile_cons_of_neg (by simp [isPayload])]
            rfl
          rw [nothing, List.append_nil, if_neg]
          rintro (full | everyPayload)
          · omega
          · have hasPayload := everyPayload result List.mem_cons_self
            rw [isPayload] at hasPayload
            cases hasPayload
      | some payload =>
          have found :
              itemsOf format cutoff (readable (result :: rest)) =
                (itemOf format cutoff result).toList ++
                  itemsOf format cutoff (readable rest) := by
            rw [readable, List.takeWhile_cons_of_pos (by simp [isPayload]),
              itemsOf_cons]
            rfl
          have every_iff :
              (∀ other ∈ result :: rest, other.payload.isSome = true) ↔
                ∀ other ∈ rest, other.payload.isSome = true := by
            simp [isPayload]
          simp only [found, every_iff, ← List.append_assoc]
          have isItem :
              itemOf format cutoff result =
                match recentItem format cutoff payload result.score with
                | .ok found => found
                | .error _ => none := by
            rw [itemOf, isPayload]
          cases isRecent : recentItem format cutoff payload result.score with
          | error error =>
              rw [isItem, isRecent]
              dsimp only
              rw [inductionHypothesis below, Option.toList_none,
                List.append_nil]
          | ok item =>
              rw [isItem, isRecent]
              dsimp only
              split
              · next full =>
                  have single : item.toList.length ≤ 1 := by
                    cases item <;> simp
                  have exactly :
                      (filtered ++ item.toList).length = limit.toNat := by
                    rw [List.length_append] at full ⊢
                    omega
                  rw [if_pos, List.take_left' exactly]
                  left
                  rw [List.length_append]
                  omega
              · next notFull =>
                  exact inductionHypothesis (not_le.mp notFull)

/-- The news are too many, or every result has a payload. -/
def Reads (format : NewsFormat) (cutoff limit : Int)
    (results : List SearchResult) : Prop :=
  limit ≤ (itemsOf format cutoff (readable results)).length ∨
    ∀ result ∈ results, result.payload.isSome = true

instance decidableReads (results : List SearchResult) :
    Decidable (Reads format cutoff limit results) :=
  inferInstanceAs (Decidable (_ ∨ _))

/-- The first recent items of a search, up to the limit. -/
def firstRecent (format : NewsFormat) (now hours limit : Int) :
    Except String (List SearchResult) → List NewsItem
  | .error _ => []
  | .ok results =>
      match format.hoursAgo now hours with
      | .error _ => []
      | .ok cutoff =>
          if Reads format cutoff limit results then
            (itemsOf format cutoff (readable results)).take limit.toNat
          else
            []

theorem recentOf_eq (positive : 0 < limit) (now hours : Int)
    (answer : Except String (List SearchResult)) :
    recentOf format now hours limit answer =
      firstRecent format now hours limit answer := by
  cases answer with
  | error error => rfl
  | ok results =>
      rw [recentOf, firstRecent]
      cases format.hoursAgo now hours with
      | error error => rfl
      | ok cutoff =>
          have below : (([] : List NewsItem).length : Int) < limit := positive
          have filtered :
              filterRecent format cutoff limit results [] =
                if Reads format cutoff limit results then
                  .ok
                    ((itemsOf format cutoff (readable results)).take
                      limit.toNat)
                else
                  .error "'NoneType' object has no attribute 'get'" :=
            filterRecent_eq results below
          simp only [bind, Except.bind, filtered]
          by_cases reads : Reads format cutoff limit results
          · simp only [if_pos reads]
          · simp only [if_neg reads]

theorem length_recentOf (positive : 0 < limit) (now hours : Int)
    (answer : Except String (List SearchResult)) :
    (recentOf format now hours limit answer).length ≤ limit.toNat := by
  rw [recentOf_eq positive]
  cases answer with
  | error error => exact Nat.zero_le _
  | ok results =>
      rw [firstRecent]
      split
      · exact Nat.zero_le _
      split
      · exact List.length_take_le _ _
      · exact Nat.zero_le _

/--
For a positive limit the recent news are the first recent items of the search,
up to the limit; none are returned if the search or the computation of the
cutoff raises, or if a result without a payload is reached before the limit.
-/
theorem recent_news_first_of_search (format : NewsFormat)
    (symbol : Option String) (hours limit : Int) (positive : 0 < limit)
    (answers : (request : NewsRequest) → NewsAnswer request)
    (memory : NewsMemory) :
    ((getRecentNews format symbol hours limit).exec answers memory).1 =
      firstRecent format (memory.clock 0) hours limit
        (answers (.searchSimilar (newsQuery symbol) (limit * 2))) :=
  recentOf_eq positive _ _ _

/-- Times which are texts of so many strokes, one for an hour. -/
def strokeFormat : NewsFormat where
  sha256 text := text
  isoformat time := String.ofList (List.replicate time.toNat '|')
  fromisoformat := hours
  hoursAgo now hours := .ok (now - hours)
  notBefore text cutoff := do
    let time ← hours text
    return decide (cutoff ≤ time)
where
  hours (text : String) : Except String Int :=
    if text.toList.all (· == '|') then
      .ok text.toList.length
    else
      .error "Invalid isoformat string"

/-- A result with a time of publication. -/
def publishedAt (time : String) : SearchResult where
  payload := some [("published_at", .string time)]
  score := 0.5

/-- The old and the unreadable results are skipped, and the last is too many. -/
theorem recent_news_first_of_search_sample :
    ((getRecentNews strokeFormat none 24 2).exec
        (fun
          | .upsertDocument _ => .ok ()
          | .searchSimilar _ _ =>
              .ok
                [ publishedAt "|||||",
                  publishedAt "|",
                  publishedAt "yesterday",
                  { payload := some [], score := 0.5 },
                  publishedAt "|||",
                  publishedAt "||||" ])
        { processedHashes := [], clock := fun _ => 27 }).1.map
        NewsItem.publishedAt =
      ["|||||", "|||"] :=
  (congrArg (List.map NewsItem.publishedAt)
      (recent_news_first_of_search strokeFormat none 24 2 (by decide) _
        _)).trans
    (by decide +kernel)

/-! ## The summary -/

/-- The text of a sentiment. -/
def sentimentText (article : NewsItem) : Option String :=
  match article.sentiment with
  | .string text => some text
  | _ => none

/-- The articles with a sentiment. -/
def tally (news : List NewsItem) (sentiment : String) : Nat :=
  news.countP fun article =>
    (sentimentText article).map String.toLower = some sentiment

/-- A sentiment is counted once, if it is a key. -/
theorem add_eq (counts : SentimentCounts) (sentiment : String) :
    counts.add sentiment =
      { positive := counts.positive + if sentiment = "positive" then 1 else 0
        negative := counts.negative + if sentiment = "negative" then 1 else 0
        neutral := counts.neutral + if sentiment = "neutral" then 1 else 0 } := by
  rw [SentimentCounts.add]
  split
  · next isPositive => subst isPositive; rfl
  split
  · next isNegative => subst isNegative; rfl
  split
  · next isNeutral => subst isNeutral; rfl
  · rfl

/-- The loop counts each sentiment, unless an article has none. -/
theorem countSentiments_eq (news : List NewsItem) (counts : SentimentCounts) :
    countSentiments news counts =
      if ∀ article ∈ news, (sentimentText article).isSome = true then
        .ok
          { positive := counts.positive + tally news "positive"
            negative := counts.negative + tally news "negative"
            neutral := counts.neutral + tally news "neutral" }
      else
        .error "object has no attribute 'lower'" := by
  induction news generalizing counts with
  | nil => rfl
  | cons article rest inductionHypothesis =>
      rw [countSentiments]
      cases isSentiment : article.sentiment with
      | string text =>
          have isText : sentimentText article = some text := by
            rw [sentimentText, isSentiment]
          have counted (sentiment : String) :
              tally (article :: rest) sentiment =
                tally rest sentiment +
                  if text.toLower = sentiment then 1 else 0 := by
            rw [tally, List.countP_cons, isText]
            simp [tally]
          dsimp only
          rw [inductionHypothesis, add_eq]
          simp only [counted, List.forall_mem_cons, isText, Option.isSome_some,
            true_and, Nat.add_assoc, Nat.add_comm (tally rest _)]
      | _ =>
          have noText : sentimentText article = none := by
            rw [sentimentText, isSentiment]
          rw [if_neg]
          intro every
          have isText := every article List.mem_cons_self
          rw [noText] at isText
          cases isText

theorem overallSentiment_ne_error (counts : SentimentCounts) :
    overallSentiment counts ≠ "error" := by
  rw [overallSentiment]
  split
  · decide
  split <;> decide

theorem overallSentiment_iff (counts : SentimentCounts) :
    (overallSentiment counts = "positive" ↔
        counts.negative * 3 < counts.positive * 2) ∧
      (overallSentiment counts = "negative" ↔
        counts.positive * 3 < counts.negative * 2) := by
  rw [overallSentiment]
  split
  · next isPositive =>
      exact
        ⟨iff_of_true rfl isPositive, iff_of_false (by decide) (by omega)⟩
  split
  · next notPositive isNegative =>
      exact ⟨iff_of_false (by decide) notPositive, iff_of_true rfl isNegative⟩
  · next notPositive notNegative =>
      exact
        ⟨iff_of_false (by decide) notPositive,
          iff_of_false (by decide) notNegative⟩

/-- What a summary says of some news. -/
structure Summarizes (news : List NewsItem) (summary : SentimentSummary) :
    Prop where
  failed :
    summary.sentiment = "error" ↔
      ∃ article ∈ news, (sentimentText article).isNone = true
  counted :
    news ≠ [] → summary.sentiment ≠ "error" →
      summary.articleCount = news.length ∧
        summary.breakdown =
          some
            { positive := tally news "positive"
              negative := tally news "negative"
              neutral := tally news "neutral" }
  overall :
    news ≠ [] → summary.sentiment ≠ "error" →
      (summary.sentiment = "positive" ↔
          tally news "negative" * 3 < tally news "positive" * 2) ∧
        (summary.sentiment = "negative" ↔
          tally news "positive" * 3 < tally news "negative" * 2)

theorem summarizes_summaryOf (symbol : String) (news : List NewsItem) :
    Summarizes news (summaryOf symbol news) := by
  by_cases isEmpty : news = []
  · subst isEmpty
    exact
      ⟨by simp [summaryOf], fun notEmpty => absurd rfl notEmpty,
        fun notEmpty => absurd rfl notEmpty⟩
  have hasNews : ¬ news.isEmpty = true := by
    rwa [List.isEmpty_iff]
  rw [summaryOf, if_neg hasNews, countSentiments_eq]
  by_cases every : ∀ article ∈ news, (sentimentText article).isSome = true
  · simp only [if_pos every, Nat.zero_add]
    set counts : SentimentCounts :=
      { positive := tally news "positive"
        negative := tally news "negative"
        neutral := tally news "neutral" } with isCounts
    refine ⟨?_, fun _ _ => ⟨rfl, rfl⟩, fun _ _ => ?_⟩
    · refine iff_of_false (overallSentiment_ne_error counts) ?_
      rintro ⟨article, member, isNone⟩
      have isSome := every article member
      rw [Option.isNone_iff_eq_none.mp isNone] at isSome
      cases isSome
    · exact overallSentiment_iff counts
  · simp only [if_neg every]
    refine
      ⟨iff_of_true rfl ?_, fun _ notFailed => absurd rfl notFailed,
        fun _ notFailed => absurd rfl notFailed⟩
    rw [not_forall] at every
    obtain ⟨article, notSome⟩ := every
    rw [Classical.not_imp] at notSome
    exact
      ⟨article, notSome.1,
        Option.isNone_iff_eq_none.mpr
          (Option.not_isSome_iff_eq_none.mp notSome.2)⟩

/--
The summary of a symbol counts the sentiments of its recent news, at most
fifty.  A single one of them without a text as its sentiment turns the whole
summary into an error.
-/
theorem sentiment_summary_of_news (format : NewsFormat) (symbol : String)
    (hours : Int) (answers : (request : NewsRequest) → NewsAnswer request)
    (memory : NewsMemory) :
    let news :=
      ((getRecentNews format (some symbol) hours 50).exec answers memory).1
    news.length ≤ 50 ∧
      Summarizes news
        ((getSentimentSummary format symbol hours).exec answers memory).1 := by
  intro news
  have isBounded : news.length ≤ 50 := by
    have positive : (0 : Int) < 50 := by decide
    exact length_recentOf positive _ _ _
  exact ⟨isBounded, summarizes_summaryOf symbol news⟩

end AeroRisk.Guardrail.Agent2.NewsIngester
