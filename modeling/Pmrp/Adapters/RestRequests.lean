import Mathlib.Data.String.Basic
import Pmrp.Lib.PercentEncoding
import Pmrp.Lib.StableSort
import Pmrp.Schemas.Texts

/-!
# `Adapters.RestRequests` — the market-list requests of the REST clients

The requests, their targets and the query parameters of `adapters/kalshi/rest.py` and `adapters/polymarket/rest.py`.
A text holds no surrogate, as Pydantic requires. Each record holds what its validators check, so `list_markets` builds
its request from its parameters without a failure. The method is always `GET`.
-/

namespace Pmrp
namespace RestRequests

/-! ## Texts -/

def restTextMaxLength : ℕ := 4096

/-- What `_validate_required_text` accepts. -/
def IsRequiredText (value : String) : Prop := IsStrippedText value ∧ value.length ≤ restTextMaxLength

instance (value : String) : Decidable (IsRequiredText value) := inferInstanceAs (Decidable (_ ∧ _))

/-- The items of a mapping that `freeze_string_mapping` accepts. -/
structure IsStringMapping (items : List (String × String)) : Prop where
  distinct : (items.map Prod.fst).Nodup
  texts : ∀ item ∈ items, IsStrippedText item.1 ∧ IsStrippedText item.2

def IsRestPath (path : String) : Prop := IsRequiredText path ∧ path.length ≤ 512 ∧ path.toList.head? = some '/'

instance (path : String) : Decidable (IsRestPath path) := inferInstanceAs (Decidable (_ ∧ _ ∧ _))

def restTimeoutMaxSeconds : ℤ := 120

def IsTimeout (seconds : ℤ) : Prop := 0 < seconds ∧ seconds ≤ restTimeoutMaxSeconds

instance (seconds : ℤ) : Decidable (IsTimeout seconds) := inferInstanceAs (Decidable (_ ∧ _))

/-- The target of a path and the items of its query in the order they are sent. -/
def targetOf (path : String) (query : List (String × String)) : String :=
  if query = [] then path else path ++ "?" ++ PercentEncoding.urlencodeText query

/-- A query with the key once for each value. -/
def entries (key : String) (values : List String) : List (String × String) := values.map fun value => (key, value)

/-- The values of a key. -/
def valuesOf (query : List (String × String)) (key : String) : List String :=
  (query.filter fun item => decide (item.1 = key)).map Prod.snd

@[simp] theorem valuesOf_append (query query' : List (String × String)) (key : String) :
    valuesOf (query ++ query') key = valuesOf query key ++ valuesOf query' key := by
  simp [valuesOf]

@[simp] theorem valuesOf_entries (key key' : String) (values : List String) :
    valuesOf (entries key values) key' = if key = key' then values else [] := by
  unfold valuesOf entries
  by_cases h : key = key'
  · simp [h, List.filter_map, Function.comp_def]
  · simp [h, List.filter_map, Function.comp_def]

theorem mem_entries {item : String × String} {key : String} {values : List String} :
    item ∈ entries key values ↔ item.1 = key ∧ item.2 ∈ values := by
  obtain ⟨k, v⟩ := item
  simp [entries, and_comm, eq_comm]

/-! ## Integers in a query -/

/-- The text of a natural number is required text of any length limit it keeps. -/
theorem isStrippedText_toString (n : ℕ) : IsStrippedText (toString n) := required_toString_nat n

theorem length_toString_nat {n k : ℕ} (hk : 0 < k) (h : n < 10 ^ k) : (toString n).length ≤ k := by
  rw [← String.length_toList, toList_toString_nat]
  exact (Nat.length_toDigits_le_iff (by decide) hk).mpr h

theorem toString_nat_injective : Function.Injective fun n : ℕ => toString n := by
  intro n m h
  have hdigits : Nat.toDigits 10 n = Nat.toDigits 10 m := by
    rw [← toList_toString_nat, ← toList_toString_nat]
    exact congrArg String.toList h
  rw [← Nat.ofDigitChars_ten_toDigits (n := n), hdigits, Nat.ofDigitChars_ten_toDigits]

/-! ## Kalshi -/

def kalshiMarketsPath : String := "/trade-api/v2/markets"

structure KalshiRestRequest where
  path : String
  query : List (String × String)
  headers : List (String × String)
  timeoutSeconds : ℤ
  path_ok : IsRestPath path
  query_ok : IsStringMapping query
  headers_ok : IsStringMapping headers
  timeout_ok : IsTimeout timeoutSeconds

/-- The pairs in the order of `sorted`, as tuples are compared. -/
def sortedItems (query : List (String × String)) : List (String × String) := sortByKey toLex query

def KalshiRestRequest.target (request : KalshiRestRequest) : String := targetOf request.path (sortedItems request.query)

/-- Whether an optional value, if it is there, meets the condition. -/
def Meets {α : Type} (P : α → Prop) (value : Option α) : Prop := ∀ a ∈ value, P a

structure KalshiMarketListParams where
  limit : Option ℕ
  cursor : Option String
  status : Option String
  limit_ok : Meets (fun n => 0 < n ∧ n ≤ 1000) limit
  cursor_ok : Meets (fun s => IsRequiredText s ∧ s.length ≤ 512) cursor
  status_ok : Meets (fun s => IsRequiredText s ∧ s.length ≤ 128) status

def KalshiMarketListParams.toQuery (params : KalshiMarketListParams) : List (String × String) :=
  entries "limit" (params.limit.map toString).toList ++ entries "cursor" params.cursor.toList ++
    entries "status" params.status.toList

theorem KalshiMarketListParams.isStringMapping_toQuery (params : KalshiMarketListParams) :
    IsStringMapping params.toQuery where
  distinct := by
    obtain ⟨limit, cursor, status, -, -, -⟩ := params
    cases limit <;> cases cursor <;> cases status <;> simp [toQuery, entries]
  texts := by
    intro item hitem
    simp only [toQuery, List.mem_append, mem_entries, Option.mem_toList] at hitem
    rcases hitem with (⟨hkey, hvalue⟩ | ⟨hkey, hvalue⟩) | ⟨hkey, hvalue⟩
    · obtain ⟨n, -, hn⟩ := Option.map_eq_some_iff.mp hvalue
      rw [hkey, ← hn]
      exact ⟨by decide, isStrippedText_toString n⟩
    · rw [hkey]
      exact ⟨by decide, (params.cursor_ok _ hvalue).1.1⟩
    · rw [hkey]
      exact ⟨by decide, (params.status_ok _ hvalue).1.1⟩

theorem isRestPath_kalshiMarketsPath : IsRestPath kalshiMarketsPath := by decide

theorem isStringMapping_nil : IsStringMapping [] := ⟨List.nodup_nil, fun _ h => absurd h List.not_mem_nil⟩

/-- The request of `KalshiMarketDataRestClient.list_markets`. -/
def kalshiListMarketsRequest (defaultTimeoutSeconds : { seconds : ℤ // IsTimeout seconds })
    (params : KalshiMarketListParams) : KalshiRestRequest where
  path := kalshiMarketsPath
  query := params.toQuery
  headers := []
  timeoutSeconds := defaultTimeoutSeconds.val
  path_ok := isRestPath_kalshiMarketsPath
  query_ok := params.isStringMapping_toQuery
  headers_ok := isStringMapping_nil
  timeout_ok := defaultTimeoutSeconds.property

/-! ## Polymarket -/

def polymarketMarketsKeysetPath : String := "/markets/keyset"

structure PolymarketRestRequest where
  path : String
  query : List (String × String)
  headers : List (String × String)
  timeoutSeconds : ℤ
  path_ok : IsRestPath path
  query_ok : ∀ item ∈ query, IsRequiredText item.1 ∧ IsRequiredText item.2
  headers_ok : IsStringMapping headers
  timeout_ok : IsTimeout timeoutSeconds

def PolymarketRestRequest.target (request : PolymarketRestRequest) : String := targetOf request.path request.query

def boolQueryValue (value : Bool) : String := if value then "true" else "false"

structure PolymarketMarketListParams where
  limit : Option ℕ
  afterCursor : Option String
  order : Option String
  ascending : Option Bool
  closed : Option Bool
  includeTag : Option Bool
  conditionIds : List String
  clobTokenIds : List String
  questionIds : List String
  slugs : List String
  limit_ok : Meets (fun n => 0 < n ∧ n ≤ 100) limit
  afterCursor_ok : Meets (fun s => IsRequiredText s ∧ s.length ≤ 512) afterCursor
  order_ok : Meets (fun s => IsRequiredText s ∧ s.length ≤ 512) order
  texts_ok : ∀ values ∈ [conditionIds, clobTokenIds, questionIds, slugs], values.Nodup ∧ ∀ s ∈ values, IsRequiredText s

/-- The query before it is sorted. -/
def PolymarketMarketListParams.queryItems (params : PolymarketMarketListParams) : List (String × String) :=
  entries "limit" (params.limit.map toString).toList ++ entries "after_cursor" params.afterCursor.toList ++
    entries "order" params.order.toList ++ entries "ascending" (params.ascending.map boolQueryValue).toList ++
    entries "closed" (params.closed.map boolQueryValue).toList ++
    entries "include_tag" (params.includeTag.map boolQueryValue).toList ++
      entries "condition_ids" params.conditionIds ++
    entries "clob_token_ids" params.clobTokenIds ++ entries "question_ids" params.questionIds ++
    entries "slug" params.slugs

def PolymarketMarketListParams.toQuery (params : PolymarketMarketListParams) : List (String × String) :=
  sortByKey Prod.fst params.queryItems

theorem isRequiredText_boolQueryValue (value : Bool) : IsRequiredText (boolQueryValue value) := by
  cases value <;> decide

theorem PolymarketMarketListParams.texts_toQuery (params : PolymarketMarketListParams) :
    ∀ item ∈ params.toQuery, IsRequiredText item.1 ∧ IsRequiredText item.2 := by
  intro item hitem
  have hbool : ∀ {value : Option Bool} {text : String}, (value.map boolQueryValue) = some text →
      IsRequiredText text := by
    intro value text h
    obtain ⟨b, -, rfl⟩ := Option.map_eq_some_iff.mp h
    exact isRequiredText_boolQueryValue b
  have htexts := params.texts_ok
  simp only [List.mem_cons, List.not_mem_nil, or_false, forall_eq_or_imp, forall_eq] at htexts
  obtain ⟨⟨-, hcondition⟩, ⟨-, htoken⟩, ⟨-, hquestion⟩, -, hslug⟩ := htexts
  simp only [toQuery, queryItems, mem_sortByKey, List.mem_append, mem_entries, Option.mem_toList] at hitem
  rcases hitem with ((((((((⟨hkey, h⟩ | ⟨hkey, h⟩) | ⟨hkey, h⟩) | ⟨hkey, h⟩) | ⟨hkey, h⟩) | ⟨hkey, h⟩) | ⟨hkey, h⟩) |
    ⟨hkey, h⟩) | ⟨hkey, h⟩) | ⟨hkey, h⟩
  all_goals
    rw [hkey]
    refine ⟨by decide, ?_⟩
  · obtain ⟨n, hn, htext⟩ := Option.map_eq_some_iff.mp h
    have hbound := (params.limit_ok n hn).2
    rw [← htext]
    exact ⟨isStrippedText_toString n, (length_toString_nat (by decide) (by omega : n < 10 ^ 3)).trans (by decide)⟩
  · exact (params.afterCursor_ok _ h).1
  · exact (params.order_ok _ h).1
  · exact hbool h
  · exact hbool h
  · exact hbool h
  · exact hcondition _ h
  · exact htoken _ h
  · exact hquestion _ h
  · exact hslug _ h

theorem isRestPath_polymarketMarketsKeysetPath : IsRestPath polymarketMarketsKeysetPath := by decide

/-- The request of `PolymarketMarketDataRestClient.list_markets`. -/
def polymarketListMarketsRequest (defaultTimeoutSeconds : { seconds : ℤ // IsTimeout seconds })
    (params : PolymarketMarketListParams) : PolymarketRestRequest where
  path := polymarketMarketsKeysetPath
  query := params.toQuery
  headers := []
  timeoutSeconds := defaultTimeoutSeconds.val
  path_ok := isRestPath_polymarketMarketsKeysetPath
  query_ok := params.texts_toQuery
  headers_ok := isStringMapping_nil
  timeout_ok := defaultTimeoutSeconds.property

end RestRequests
end Pmrp
