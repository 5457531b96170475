import AeroRisk.Event
import AeroRisk.Library.Confirmations

/-!
# The ingestion of news

`NewsIngester` stores each article once, under an ID made of a hash of its
headline, content and time, and remembers the IDs which it stored.  The vector
store is awaited, so other calls run while one of them waits; its answers are
arbitrary.  The recent news are those results of a search which are not too
old, up to a limit.

The hash, and how times are written and read, are parameters.
-/

namespace AeroRisk.Guardrail.Agent2.NewsIngester

open AeroRisk.Event
open AeroRisk.Library

/-- What a news article is stored with. -/
structure NewsPayload where
  headline : String
  content : String
  source : String
  publishedAt : String
  symbols : List String
  sentiment : String
  ingestedAt : String

/-- A document of the vector store. -/
structure NewsDocument where
  documentID : String
  text : String
  payload : NewsPayload

/-- A result of a search; a document may have no payload. -/
structure SearchResult where
  payload : Option Members
  score : Float

/-- What the ingester awaits of the vector store. -/
inductive NewsRequest where
  | upsertDocument (document : NewsDocument)
  | searchSimilar (queryText : String) (limit : Int)

/-- What the vector store answers, or the exception which it raises. -/
def NewsAnswer : NewsRequest → Type
  | .upsertDocument _ => Except String Unit
  | .searchSimilar _ _ => Except String (List SearchResult)

/-- The memory of the ingester, with the readings of the clock. -/
structure NewsMemory where
  processedHashes : List String
  /-- The times in microseconds which `datetime.now()` is going to return. -/
  clock : Nat → Int

abbrev NewsTask := Coroutine NewsMemory NewsAnswer

open Coroutine (read modify request)

/-- Hashes and times. -/
structure NewsFormat where
  /-- `hashlib.sha256(text.encode()).hexdigest()`. -/
  sha256 : String → String
  /-- `datetime.isoformat`. -/
  isoformat : Int → String
  /-- `datetime.fromisoformat`. -/
  fromisoformat : String → Except String Int
  /-- `datetime.now() - timedelta(hours=hours)`, for a reading of the clock. -/
  hoursAgo : Int → Int → Except String Int
  /-- `datetime.fromisoformat(text) >= cutoff`. -/
  notBefore : String → Int → Except String Bool

/-- The time of an article: a `datetime`, a text, or something else. -/
inductive PublishedAt where
  | datetime (time : Int)
  | text (text : String)
  | other

/-- The items of an article. -/
structure Article where
  headline : Option String
  content : Option String
  source : Option String
  publishedAt : Option PublishedAt
  symbols : Option (List String)
  sentiment : Option String

/-- `datetime.now()`. -/
def datetimeNow : NewsTask Int := do
  let memory ← read
  modify fun memory =>
    { memory with clock := fun reading => memory.clock (reading + 1) }
  pure (memory.clock 0)

/-- `value or default`, for a text. -/
def textOr (value : Option String) (default : String) : String :=
  match value with
  | none => default
  | some text => if text = "" then default else text

variable (format : NewsFormat)

/-- The ID of a document, made of what is hashed. -/
def documentID (headline content publishedAt : String) : String :=
  "news_" ++
    String.ofList
      ((format.sha256 (headline ++ ":" ++ content ++ ":" ++ publishedAt)).toList
        |>.take 16)

/-- The text of a document. -/
def documentText (headline content source publishedAt : String)
    (symbols : Option (List String)) (sentiment : Option String) : String :=
  let listed :=
    match symbols with
    | none => "N/A"
    | some [] => "N/A"
    | some symbols => ", ".intercalate symbols
  "\n        Headline: " ++ headline ++
    "\n        Source: " ++ source ++
    "\n        Published: " ++ publishedAt ++
    "\n        Symbols: " ++ listed ++
    "\n        Content: " ++ content ++
    "\n        Sentiment: " ++ textOr sentiment "neutral" ++ "\n        "

/-- `ingest_article`. -/
def ingestArticle (headline content source : String) (publishedAt : Int)
    (symbols : Option (List String)) (sentiment : Option String) :
    NewsTask (Except String String) := do
  let published := format.isoformat publishedAt
  let docID := documentID format headline content published
  let memory ← read
  if docID ∈ memory.processedHashes then
    pure (.ok docID)
  else
    let now ← datetimeNow
    let document : NewsDocument :=
      { documentID := docID
        text :=
          documentText headline content source published symbols sentiment
        payload :=
          { headline
            content
            source
            publishedAt := published
            symbols := symbols.getD []
            sentiment := textOr sentiment "neutral"
            ingestedAt := format.isoformat now } }
    match ← request (NewsRequest.upsertDocument document) with
    | .error error => pure (.error error)
    | .ok () =>
        modify fun memory =>
          { memory with processedHashes := docID :: memory.processedHashes }
        pure (.ok docID)

/-- The time of an article in a batch; the default is computed in any case. -/
def publishedOf (article : Article) : NewsTask (Except String Int) :=
  match article.publishedAt with
  | some (.datetime time) => pure (.ok time)
  | some (.text text) => do
      let _ ← datetimeNow
      pure (format.fromisoformat text)
  | some .other => do
      let _ ← datetimeNow
      pure (.error "fromisoformat: argument must be str")
  | none => do
      let now ← datetimeNow
      pure (format.fromisoformat (format.isoformat now))

/-- The body of the loop of `ingest_batch`, up to its exception handler. -/
def ingestItem (article : Article) : NewsTask (Except String String) := do
  match ← publishedOf format article with
  | .error error => pure (.error error)
  | .ok published =>
      ingestArticle format (article.headline.getD "")
        (article.content.getD "") (article.source.getD "unknown") published
        article.symbols article.sentiment

/-- The loop of `ingest_batch`, with the counts so far. -/
def ingestItems : List Article → Nat → Nat → NewsTask (Nat × Nat)
  | [], successful, skipped => pure (successful, skipped)
  | article :: rest, successful, skipped => do
      match ← ingestItem format article with
      | .ok _ => ingestItems rest (successful + 1) skipped
      | .error _ => ingestItems rest successful (skipped + 1)

/-- `ingest_batch`. -/
def ingestBatch (articles : List Article) : NewsTask (Nat × Nat) :=
  ingestItems format articles 0 0

/-- `clear_cache`. -/
def clearCache : NewsTask PUnit :=
  modify fun memory => { memory with processedHashes := [] }

/-! ## Recent news -/

/-- A news item, as `get_recent_news` returns it. -/
structure NewsItem where
  headline : Json
  source : Json
  sentiment : Json
  publishedAt : String
  symbols : Json
  score : Float

/-- `payload.get(name, default)`. -/
def getMember (payload : Members) (name : String) (default : Json) : Json :=
  (payload.lookup name).getD default

/-- `if value:`. -/
def isTrue : Json → Bool
  | .null => false
  | .bool value => value
  | .integer value => value != 0
  | .number value => value != 0
  | .string value => value != ""
  | .array elements => !elements.isEmpty
  | .object members => !members.isEmpty

/--
The item of a result, if it is recent; the exceptions are those which the loop
catches.
-/
def recentItem (cutoff : Int) (payload : Members) (score : Float) :
    Except String (Option NewsItem) :=
  let published := getMember payload "published_at" .null
  if isTrue published then
    match published with
    | .string publishedAt => do
        let isRecent ← format.notBefore publishedAt cutoff
        if isRecent then
          return some
            { headline := getMember payload "headline" .null
              source := getMember payload "source" .null
              sentiment := getMember payload "sentiment" .null
              publishedAt
              symbols := getMember payload "symbols" (.array [])
              score }
        else
          return none
    | _ => .error "fromisoformat: argument must be str"
  else
    .ok none

/-- The loop of `get_recent_news`. -/
def filterRecent (cutoff limit : Int) :
    List SearchResult → List NewsItem → Except String (List NewsItem)
  | [], filtered => .ok filtered
  | result :: rest, filtered =>
      match result.payload with
      | none => .error "'NoneType' object has no attribute 'get'"
      | some payload =>
          match recentItem format cutoff payload result.score with
          -- `continue` skips the comparison with the limit.
          | .error _ => filterRecent cutoff limit rest filtered
          | .ok found =>
              let filtered := filtered ++ found.toList
              if limit ≤ filtered.length then .ok filtered
              else filterRecent cutoff limit rest filtered

/-- What `get_recent_news` makes of the answer to its search. -/
def recentOf (now hours limit : Int) :
    Except String (List SearchResult) → List NewsItem
  | .error _ => []
  | .ok results =>
      match
        (do
          let cutoff ← format.hoursAgo now hours
          filterRecent format cutoff limit results [] :
          Except String (List NewsItem)) with
      | .ok filtered => filtered
      | .error _ => []

/-- The query for news, about a symbol if there is one. -/
def newsQuery (symbol : Option String) : String :=
  match symbol with
  | none => "latest financial market news"
  | some "" => "latest financial market news"
  | some symbol => "market news about " ++ symbol ++ " stock"

/-- `get_recent_news`. -/
def getRecentNews (symbol : Option String) (hours limit : Int) :
    NewsTask (List NewsItem) := do
  let results ←
    request (NewsRequest.searchSimilar (newsQuery symbol) (limit * 2))
  let now ← datetimeNow
  pure (recentOf format now hours limit results)

/-- `sentiment_counts`. -/
structure SentimentCounts where
  positive : Nat
  negative : Nat
  neutral : Nat
deriving DecidableEq, Repr

/-- `sentiment_counts[sentiment] += 1`, for a sentiment among its keys. -/
def SentimentCounts.add (counts : SentimentCounts) (sentiment : String) :
    SentimentCounts :=
  if sentiment = "positive" then
    { counts with positive := counts.positive + 1 }
  else if sentiment = "negative" then
    { counts with negative := counts.negative + 1 }
  else if sentiment = "neutral" then
    { counts with neutral := counts.neutral + 1 }
  else
    counts

/-- The loop of `get_sentiment_summary`. -/
def countSentiments :
    List NewsItem → SentimentCounts → Except String SentimentCounts
  | [], counts => .ok counts
  | article :: rest, counts =>
      match article.sentiment with
      | .string sentiment =>
          countSentiments rest (counts.add sentiment.toLower)
      | _ => .error "object has no attribute 'lower'"

/--
The overall sentiment.  The counts are at most fifty, so the products with 1.5
are exact.
-/
def overallSentiment (counts : SentimentCounts) : String :=
  if counts.negative * 3 < counts.positive * 2 then "positive"
  else if counts.positive * 3 < counts.negative * 2 then "negative"
  else "neutral"

/-- What `get_sentiment_summary` returns. -/
structure SentimentSummary where
  symbol : String
  articleCount : Nat
  sentiment : String
  breakdown : Option SentimentCounts
  /-- The ratios of positive and of negative articles. -/
  ratios : Option (Float × Float)

/-- The summary of some news. -/
def summaryOf (symbol : String) (news : List NewsItem) : SentimentSummary :=
  if news.isEmpty then
    { symbol
      articleCount := 0
      sentiment := "unknown"
      breakdown := none
      ratios := none }
  else
    match countSentiments news { positive := 0, negative := 0, neutral := 0 }
      with
    | .ok counts =>
        { symbol
          articleCount := news.length
          sentiment := overallSentiment counts
          breakdown := some counts
          ratios :=
            some
              (counts.positive.toFloat / news.length.toFloat,
                counts.negative.toFloat / news.length.toFloat) }
    | .error _ =>
        { symbol
          articleCount := 0
          sentiment := "error"
          breakdown := none
          ratios := none }

/-- `get_sentiment_summary`. -/
def getSentimentSummary (symbol : String) (hours : Int) :
    NewsTask SentimentSummary := do
  let news ← getRecentNews format (some symbol) hours 50
  pure (summaryOf symbol news)

/-! ## What is ingested -/

/-- An answer confirms the document which it says is stored. -/
def stored : Confirmation NewsMemory NewsAnswer String where
  kept memory := { id | id ∈ memory.processedHashes }
  confirmed
    | .upsertDocument document, .ok () => {document.documentID}
    | .upsertDocument _, .error _ => ∅
    | .searchSimilar _ _, _ => ∅

section Justifies

variable {format} {known : Set String}

theorem datetimeNow_justifies :
    datetimeNow.Justifies stored (fun _ _ => True) known := by
  refine Coroutine.justifies_read.bind fun more memory _ _ => ?_
  have stores (memory : NewsMemory) :
      stored.kept
          { memory with clock := fun reading => memory.clock (reading + 1) } ⊆
        stored.kept memory ∪ more :=
    Set.subset_union_left
  exact
    (Coroutine.justifies_modify stores).bind fun _ _ _ _ =>
      Coroutine.justifies_pure trivial

/-- The outcome of an article, whose task knows of its ID if it returns it. -/
def Ingested (id : String) (known : Set String) : Except String String → Prop
  | .ok returned => returned = id ∧ id ∈ known
  | .error _ => True

theorem ingestArticle_justifies (headline content source : String)
    (publishedAt : Int) (symbols : Option (List String))
    (sentiment : Option String) :
    (ingestArticle format headline content source publishedAt symbols
        sentiment).Justifies stored
      (Ingested
        (documentID format headline content (format.isoformat publishedAt)))
      known := by
  refine Coroutine.justifies_read.bind fun more memory _ isRead => ?_
  dsimp only
  split
  · next isProcessed =>
      exact Coroutine.justifies_pure ⟨rfl, isRead isProcessed⟩
  · refine datetimeNow_justifies.bind fun further now _ _ => ?_
    refine (Coroutine.justifies_request _).bind fun last answer _ isAnswer => ?_
    cases answer with
    | error error => exact Coroutine.justifies_pure trivial
    | ok _ =>
        set docID :=
          documentID format headline content (format.isoformat publishedAt)
        have isStored : docID ∈ last := isAnswer (Set.mem_singleton docID)
        have stores (memory : NewsMemory) :
            stored.kept
                { memory with
                  processedHashes := docID :: memory.processedHashes } ⊆
              stored.kept memory ∪ last := by
          intro id member
          rcases List.mem_cons.mp member with rfl | isOld
          · exact .inr isStored
          · exact .inl isOld
        exact
          (Coroutine.justifies_modify stores).bind fun final _ knows _ =>
            Coroutine.justifies_pure ⟨rfl, knows isStored⟩

/-- A time which an article in a batch may have. -/
def PublishedOn (format : NewsFormat) (article : Article) (time : Int) : Prop :=
  match article.publishedAt with
  | some (.datetime published) => time = published
  | some (.text text) => format.fromisoformat text = .ok time
  | some .other => False
  | none => ∃ now, format.fromisoformat (format.isoformat now) = .ok time

/-- An ID under which an article in a batch may be stored. -/
def HasID (format : NewsFormat) (article : Article) (id : String) : Prop :=
  ∃ time, PublishedOn format article time ∧
    id =
      documentID format (article.headline.getD "") (article.content.getD "")
        (format.isoformat time)

theorem publishedOf_justifies (article : Article) :
    (publishedOf format article).Justifies stored
      (fun _ outcome =>
        ∀ time, outcome = .ok time → PublishedOn format article time)
      known := by
  rw [publishedOf]
  split
  · next time isTime =>
      refine Coroutine.justifies_pure ?_
      rintro _ ⟨⟩
      rw [PublishedOn, isTime]
  · next text isText =>
      refine datetimeNow_justifies.bind fun _ _ _ _ => ?_
      refine Coroutine.justifies_pure fun time isTime => ?_
      rw [PublishedOn, isText]
      exact isTime
  · refine datetimeNow_justifies.bind fun _ _ _ _ => ?_
    refine Coroutine.justifies_pure ?_
    rintro _ ⟨⟩
  · next isMissing =>
      refine datetimeNow_justifies.bind fun _ now _ _ => ?_
      refine Coroutine.justifies_pure fun time isTime => ?_
      rw [PublishedOn, isMissing]
      exact ⟨now, isTime⟩

/-- An article in a batch is stored under an ID of its own, or it raises. -/
def ItemIngested (format : NewsFormat) (article : Article)
    (known : Set String) : Except String String → Prop
  | .ok id => HasID format article id ∧ id ∈ known
  | .error _ => True

theorem ingestItem_justifies (article : Article) :
    (ingestItem format article).Justifies stored (ItemIngested format article)
      known := by
  refine (publishedOf_justifies article).bind fun more outcome _ isTime => ?_
  cases outcome with
  | error error => exact Coroutine.justifies_pure trivial
  | ok time =>
      refine (ingestArticle_justifies _ _ _ _ _ _).imp ?_
      rintro known (error | id) ingested
      · trivial
      · exact ⟨⟨time, isTime time rfl, ingested.1⟩, ingested.1 ▸ ingested.2⟩

/-- The counts of a batch, and the articles which were stored. -/
def Counts (format : NewsFormat) (articles : List Article)
    (known : Set String) (counts : Nat × Nat) : Prop :=
  counts.1 + counts.2 = articles.length ∧
    ∃ ingested : List Article,
      ingested.Sublist articles ∧ ingested.length = counts.1 ∧
        ∀ article ∈ ingested, ∃ id ∈ known, HasID format article id

theorem ingestItems_justifies (articles : List Article)
    (successful skipped : Nat) {earlier : List Article}
    (counted : Counts format earlier known (successful, skipped)) :
    (ingestItems format articles successful skipped).Justifies stored
      (Counts format (earlier ++ articles)) known := by
  induction articles generalizing successful skipped earlier known with
  | nil =>
      rw [List.append_nil]
      exact Coroutine.justifies_pure counted
  | cons article rest inductionHypothesis =>
      rw [List.append_cons]
      refine (ingestItem_justifies article).bind fun more outcome knows is => ?_
      obtain ⟨total, ingested, sublist, length, stored⟩ := counted
      dsimp only at total length
      have still (old : Article) (member : old ∈ ingested) :
          ∃ id ∈ more, HasID format old id := by
        obtain ⟨id, isKnown, hasID⟩ := stored old member
        exact ⟨id, knows isKnown, hasID⟩
      cases outcome with
      | error error =>
          refine inductionHypothesis successful (skipped + 1) ⟨?_, ?_⟩
          · rw [List.length_append, List.length_singleton]
            dsimp only
            omega
          · exact
              ⟨ingested, sublist.trans (List.sublist_append_left _ _), length,
                still⟩
      | ok id =>
          refine inductionHypothesis (successful + 1) skipped ⟨?_, ?_⟩
          · rw [List.length_append, List.length_singleton]
            dsimp only
            omega
          · refine
              ⟨ingested ++ [article], sublist.append (List.Sublist.refl _),
                by rw [List.length_append, length, List.length_singleton], ?_⟩
            intro old member
            rcases List.mem_append.mp member with isOld | isNew
            · exact still old isOld
            · rw [List.mem_singleton.mp isNew]
              exact ⟨id, is.2, is.1⟩

theorem clearCache_justifies :
    clearCache.Justifies stored (fun _ _ => True) known := by
  refine Coroutine.justifies_modify fun memory id member => ?_
  cases member

theorem getRecentNews_justifies (symbol : Option String) (hours limit : Int) :
    (getRecentNews format symbol hours limit).Justifies stored
      (fun _ _ => True) known :=
  (Coroutine.justifies_request _).bind fun _ _ _ _ =>
    datetimeNow_justifies.bind fun _ _ _ _ =>
      Coroutine.justifies_pure trivial

end Justifies

/-! ## The calls of the ingester -/

/-- A call of the ingester. -/
inductive NewsCall where
  | ingestArticle (headline content source : String) (publishedAt : Int)
      (symbols : Option (List String)) (sentiment : Option String)
  | ingestBatch (articles : List Article)
  | clearCache
  | getRecentNews (symbol : Option String) (hours limit : Int)
  | getSentimentSummary (symbol : String) (hours : Int)

/-- What the calls return. -/
inductive NewsResult where
  | ingested (outcome : Except String String)
  | counts (counts : Nat × Nat)
  | cleared
  | news (news : List NewsItem)
  | summary (summary : SentimentSummary)

/-- A call as a task. -/
def newsTask : NewsCall → NewsTask NewsResult
  | .ingestArticle headline content source publishedAt symbols sentiment => do
      let outcome ←
        ingestArticle format headline content source publishedAt symbols
          sentiment
      pure (.ingested outcome)
  | .ingestBatch articles => do
      let counts ← ingestBatch format articles
      pure (.counts counts)
  | .clearCache => do
      clearCache
      pure .cleared
  | .getRecentNews symbol hours limit => do
      let news ← getRecentNews format symbol hours limit
      pure (.news news)
  | .getSentimentSummary symbol hours => do
      let summary ← getSentimentSummary format symbol hours
      pure (.summary summary)

/-- What a call says of the documents which its task knows to be stored. -/
def Claims (format : NewsFormat) (call : NewsCall) (known : Set String)
    (result : NewsResult) : Prop :=
  match call, result with
  | .ingestArticle headline content _ publishedAt _ _, .ingested outcome =>
      Ingested
        (documentID format headline content (format.isoformat publishedAt))
        known outcome
  | .ingestBatch articles, .counts counts =>
      Counts format articles known counts
  | .clearCache, .cleared => True
  | .getRecentNews _ _ _, .news _ => True
  | .getSentimentSummary _ _, .summary _ => True
  | _, _ => False

theorem Counts.mono {format : NewsFormat} {articles : List Article}
    {known more : Set String} {counts : Nat × Nat}
    (counted : Counts format articles known counts) (knows : known ⊆ more) :
    Counts format articles more counts := by
  obtain ⟨total, ingested, sublist, length, stored⟩ := counted
  refine ⟨total, ingested, sublist, length, fun article member => ?_⟩
  obtain ⟨id, isKnown, hasID⟩ := stored article member
  exact ⟨id, knows isKnown, hasID⟩

theorem Claims.mono {format : NewsFormat} {call : NewsCall}
    {known more : Set String} {result : NewsResult}
    (claims : Claims format call known result) (knows : known ⊆ more) :
    Claims format call more result := by
  unfold Claims at claims ⊢
  split at claims
  · next outcome =>
      cases outcome with
      | error error => trivial
      | ok id => exact ⟨claims.1, knows claims.2⟩
  · exact claims.mono knows
  · trivial
  · trivial
  · trivial
  · exact claims.elim

theorem newsTask_justifies (call : NewsCall) :
    (newsTask format call).Justifies stored (Claims format call) ∅ := by
  cases call with
  | ingestArticle headline content source publishedAt symbols sentiment =>
      exact
        (ingestArticle_justifies _ _ _ _ _ _).bind fun _ _ _ ingested =>
          Coroutine.justifies_pure ingested
  | ingestBatch articles =>
      have nothing : Counts format [] (∅ : Set String) (0, 0) :=
        ⟨rfl, [], List.Sublist.refl _, rfl, by simp⟩
      exact
        (ingestItems_justifies articles 0 0 nothing).bind fun _ _ _ counted =>
          Coroutine.justifies_pure counted
  | clearCache =>
      exact
        clearCache_justifies.bind fun _ _ _ _ =>
          Coroutine.justifies_pure trivial
  | getRecentNews symbol hours limit =>
      exact
        (getRecentNews_justifies symbol hours limit).bind fun _ _ _ _ =>
          Coroutine.justifies_pure trivial
  | getSentimentSummary symbol hours =>
      have summarizes :
          (getSentimentSummary format symbol hours).Justifies stored
            (fun _ _ => True) (∅ : Set String) :=
        (getRecentNews_justifies (some symbol) hours 50).bind
          fun _ _ _ _ => Coroutine.justifies_pure trivial
      exact
        summarizes.bind fun _ _ _ _ => Coroutine.justifies_pure trivial

/-- A new ingester with its calls. -/
def newNewsIngester {Client : Type} (clock : Nat → Int)
    (calls : Client → NewsCall) :
    EventLoop Client NewsMemory NewsAnswer NewsResult :=
  .start { processedHashes := [], clock }
    fun client => newsTask format (calls client)

/-- The vector store said to some call that it stored a document. -/
def Stored {Client : Type}
    (loop : EventLoop Client NewsMemory NewsAnswer NewsResult) (id : String) :
    Prop :=
  ∃ client document,
    (⟨.upsertDocument document, .ok ()⟩ :
        (sent : NewsRequest) × NewsAnswer sent) ∈ loop.answered client ∧
      document.documentID = id

theorem stored_of_mem {Client : Type}
    {loop : EventLoop Client NewsMemory NewsAnswer NewsResult} {id : String}
    (isConfirmed : id ∈ loop.confirmedBy stored) : Stored loop id := by
  obtain ⟨client, ⟨sent, answer⟩, isAnswered, isStored⟩ := isConfirmed
  cases sent with
  | upsertDocument document =>
      cases answer with
      | error error => cases isStored
      | ok done => exact ⟨client, document, isAnswered, isStored.symm⟩
  | searchSimilar queryText limit => cases isStored

/--
However the calls take turns and whatever the vector store answers, an ID is
remembered only after the store said that it has its document.  So is the ID
which a call to ingest an article returns; a batch counts each article once,
and its successful ones are articles of it which the store has.  Every call
which is resumed often enough returns.
-/
theorem ingested_are_stored {Client : Type} [DecidableEq Client]
    (format : NewsFormat) (clock : Nat → Int) (calls : Client → NewsCall)
    (schedule :
      List (Client × ((request : NewsRequest) → NewsAnswer request))) :
    let reached := (newNewsIngester format clock calls).resumeAll schedule
    (∀ id ∈ reached.memory.processedHashes, Stored reached id) ∧
      (∀ client result, reached.tasks client = .done result →
        Claims format (calls client) { id | Stored reached id } result) ∧
      ∀ client answers, ∃ count result,
        (reached.resumeAll (List.replicate count (client, answers))).tasks
            client =
          .done result := by
  have initially :
      (newNewsIngester format clock calls).Justified stored
        fun client => Claims format (calls client) :=
    EventLoop.justified_start (Set.eq_empty_of_forall_notMem (by simp [stored]))
      fun client => newsTask_justifies format (calls client)
  have justified := initially.resumeAll schedule
  refine ⟨fun id member => stored_of_mem (justified.memory member), ?_, ?_⟩
  · intro client result isDone
    obtain ⟨known, knows, claims⟩ := justified.returned isDone
    exact claims.mono fun id isKnown => stored_of_mem (knows isKnown)
  · exact fun client answers => EventLoop.exists_done _ client answers

end AeroRisk.Guardrail.Agent2.NewsIngester
