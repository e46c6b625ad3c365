import Pmrp.Adapters.RestRequests

/-!
# `Adapters.Correctness.RestTargets` — what the target of a request says

The query of a target is read back from it. For one path, the target of a Kalshi request tells its query mapping and
nothing of the order in which it was filled, and the target of a market-list request tells its parameters.

## Contents
- **Targets.** `targetOf_injective`, `parseQuery_targetOf`, `target_eq_iff`.
- **Parameters.** `kalshi_target_determines`, `polymarket_target_determines`.
-/

namespace Pmrp
namespace RestRequests

open PercentEncoding

/-! ## Targets -/

/-- For one path, a target tells the items that it was built from. -/
theorem targetOf_injective {path : String} {query query' : List (String × String)}
    (h : targetOf path query = targetOf path query') : query = query' := by
  -- a query that is not empty makes the target longer than the path
  have hlonger : ∀ q : List (String × String), path ≠ path ++ "?" ++ urlencodeText q := by
    intro q heq
    have hlength := congrArg String.length heq
    simp only [String.length_append] at hlength
    have : ("?" : String).length = 1 := rfl
    omega
  unfold targetOf at h
  split_ifs at h with hq hq' hq'
  · rw [hq, hq']
  · exact absurd h (hlonger query')
  · exact absurd h.symm (hlonger query)
  · have hlists := congrArg String.toList h
    simp only [String.toList_append, List.append_cancel_left_eq] at hlists
    exact urlencodeText_injective hq hq' (String.toList_inj.mp hlists)

/-- The items are read back from what follows the path and the question mark. -/
theorem parseQuery_targetOf (path : String) {query : List (String × String)} (h : query ≠ []) :
    parseQuery ((targetOf path query).toList.drop (path.length + 1)) = query.map textPair := by
  rw [targetOf, if_neg h, String.toList_append, String.toList_append, List.drop_append_of_le_length]
  · have hlength : (path.toList ++ "?".toList).length = path.length + 1 := by simp [String.length_toList]
    rw [← hlength, List.drop_length, List.nil_append, parseQuery_urlencodeText h]
  · simp [String.length_toList]

theorem sortedItems_perm (query : List (String × String)) : (sortedItems query).Perm query := sortByKey_perm toLex query

/-- Different pairs do not tie, so the order of insertion is lost. -/
theorem sortedItems_eq_iff {query query' : List (String × String)} :
    sortedItems query = sortedItems query' ↔ query.Perm query' := by
  constructor
  · intro h
    exact (sortedItems_perm query).symm.trans (h ▸ sortedItems_perm query')
  · intro h
    have hties : TiesEqual toLex (sortedItems query) := fun a _ b _ hab => toLex.injective hab
    exact eq_of_perm_of_tiesEqual hties (pairwise_sortByKey toLex query) (pairwise_sortByKey toLex query')
      ((sortedItems_perm query).trans (h.trans (sortedItems_perm query').symm))

/-- **Two Kalshi requests to one path have one target exactly when their query mappings are the same.** -/
theorem target_eq_iff {request request' : KalshiRestRequest} (hpath : request.path = request'.path) :
    request.target = request'.target ↔ request.query.Perm request'.query := by
  unfold KalshiRestRequest.target
  rw [← sortedItems_eq_iff, hpath]
  exact ⟨targetOf_injective, fun h => by rw [h]⟩

/-! ## Parameters -/

theorem valuesOf_perm {query query' : List (String × String)} (h : query.Perm query') (key : String) :
    (valuesOf query key).Perm (valuesOf query' key) := (h.filter _).map _

/-- The values of a key keep their order when the items are sorted by their keys. -/
theorem valuesOf_sortByKey (query : List (String × String)) (key : String) :
    valuesOf (sortByKey Prod.fst query) key = valuesOf query key := by
  rw [valuesOf, filter_sortByKey]
  rfl

theorem toList_perm_iff {α : Type} {o o' : Option α} : o.toList.Perm o'.toList ↔ o = o' := by
  constructor
  · intro h
    cases o with
    | none => cases o' with
      | none => rfl
      | some b => exact absurd h.length_eq (by simp)
    | some a =>
        have hsingle := List.perm_singleton.mp h.symm
        cases o' with
        | none => cases hsingle
        | some b => exact congrArg some (List.cons.inj hsingle).1.symm
  · rintro rfl
    exact List.Perm.refl _

theorem map_injective_option {α β : Type} {f : α → β} (hf : Function.Injective f) {o o' : Option α}
    (h : o.map f = o'.map f) : o = o' := Option.map_injective hf h

theorem KalshiMarketListParams.valuesOf_toQuery (params : KalshiMarketListParams) :
    valuesOf params.toQuery "limit" = (params.limit.map toString).toList ∧
      valuesOf params.toQuery "cursor" = params.cursor.toList ∧
      valuesOf params.toQuery "status" = params.status.toList := by
  simp [toQuery]

theorem KalshiMarketListParams.ext_of_fields {params params' : KalshiMarketListParams}
    (hlimit : params.limit = params'.limit) (hcursor : params.cursor = params'.cursor)
    (hstatus : params.status = params'.status) : params = params' := by
  cases params
  cases params'
  cases hlimit
  cases hcursor
  cases hstatus
  rfl

/-- The query mapping tells every parameter. -/
theorem KalshiMarketListParams.toQuery_perm_iff {params params' : KalshiMarketListParams} :
    params.toQuery.Perm params'.toQuery ↔ params = params' := by
  constructor
  · intro h
    obtain ⟨hlimit, hcursor, hstatus⟩ := params.valuesOf_toQuery
    obtain ⟨hlimit', hcursor', hstatus'⟩ := params'.valuesOf_toQuery
    have hperm := valuesOf_perm h
    refine KalshiMarketListParams.ext_of_fields (map_injective_option toString_nat_injective ?_) ?_ ?_
    · exact toList_perm_iff.mp (hlimit ▸ hlimit' ▸ hperm "limit")
    · exact toList_perm_iff.mp (hcursor ▸ hcursor' ▸ hperm "cursor")
    · exact toList_perm_iff.mp (hstatus ▸ hstatus' ▸ hperm "status")
  · rintro rfl
    exact List.Perm.refl _

/-- A query that is sent is read back from the target. -/
def ReadsBack (path target : String) (query : List (String × String)) : Prop :=
  query ≠ [] → parseQuery (target.toList.drop (path.length + 1)) = query.map textPair

/-- **The target of a Kalshi market-list request is its parameters**: different ones have different targets, whatever
    the timeouts, and the sorted query is read back. -/
theorem kalshi_target_determines (timeout timeout' : { seconds : ℤ // IsTimeout seconds })
    (params params' : KalshiMarketListParams) :
    ((kalshiListMarketsRequest timeout params).target = (kalshiListMarketsRequest timeout' params').target ↔
        params = params') ∧
      ReadsBack kalshiMarketsPath (kalshiListMarketsRequest timeout params).target (sortedItems params.toQuery) := by
  refine ⟨?_, parseQuery_targetOf kalshiMarketsPath⟩
  rw [← KalshiMarketListParams.toQuery_perm_iff]
  exact target_eq_iff (show (kalshiListMarketsRequest timeout params).path =
      (kalshiListMarketsRequest timeout' params').path
    from rfl)

theorem boolQueryValue_injective : Function.Injective boolQueryValue := by
  intro a b h
  cases a <;> cases b <;> first | rfl | exact absurd h (by decide)

theorem toList_injective {α : Type} {o o' : Option α} (h : o.toList = o'.toList) : o = o' :=
  toList_perm_iff.mp (h ▸ List.Perm.refl _)

/-- The query tells every parameter. -/
theorem PolymarketMarketListParams.toQuery_injective {params params' : PolymarketMarketListParams}
    (h : params.toQuery = params'.toQuery) : params = params' := by
  have hvalues : ∀ key, valuesOf params.queryItems key = valuesOf params'.queryItems key := by
    intro key
    rw [← valuesOf_sortByKey, ← valuesOf_sortByKey params'.queryItems]
    exact congrArg (fun query => valuesOf query key) h
  have hlimit := hvalues "limit"
  have hafter := hvalues "after_cursor"
  have horder := hvalues "order"
  have hascending := hvalues "ascending"
  have hclosed := hvalues "closed"
  have htag := hvalues "include_tag"
  have hcondition := hvalues "condition_ids"
  have htoken := hvalues "clob_token_ids"
  have hquestion := hvalues "question_ids"
  have hslug := hvalues "slug"
  simp [queryItems] at hlimit hafter horder hascending hclosed htag hcondition htoken hquestion hslug
  obtain ⟨limit, after, order, ascending, closed, tag, condition, token, question, slug, _, _, _, _⟩ := params
  obtain ⟨limit', after', order', ascending', closed', tag', condition', token', question', slug', _, _, _, _⟩ :=
      params'
  obtain rfl := map_injective_option toString_nat_injective (toList_injective hlimit)
  obtain rfl := toList_injective hafter
  obtain rfl := toList_injective horder
  obtain rfl := map_injective_option boolQueryValue_injective (toList_injective hascending)
  obtain rfl := map_injective_option boolQueryValue_injective (toList_injective hclosed)
  obtain rfl := map_injective_option boolQueryValue_injective (toList_injective htag)
  cases hcondition
  cases htoken
  cases hquestion
  cases hslug
  rfl

/-- **The target of a Polymarket market-list request is its parameters**, each list of them in its order, and the query
    is read back. -/
theorem polymarket_target_determines (timeout timeout' : { seconds : ℤ // IsTimeout seconds })
    (params params' : PolymarketMarketListParams) :
    ((polymarketListMarketsRequest timeout params).target = (polymarketListMarketsRequest timeout' params').target ↔
        params = params') ∧
      ReadsBack polymarketMarketsKeysetPath (polymarketListMarketsRequest timeout params).target params.toQuery := by
  refine ⟨⟨fun h => PolymarketMarketListParams.toQuery_injective (targetOf_injective h), ?_⟩,
    parseQuery_targetOf polymarketMarketsKeysetPath⟩
  rintro rfl
  rfl

end RestRequests
end Pmrp
