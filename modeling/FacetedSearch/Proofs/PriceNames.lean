import FacetedSearch.Draft
import FacetedSearch.Proofs.CatalogRules

/-!
# The names of prices

Filters, facets and sort items name the prices in a currency each in its own way: with the code
behind the name, where a rule replaces it, or with the bare name, where the currency of the draft
comes in. All of them arrive at one field.

## Main definitions

* `Filter.part?` — the filter at a place of a tree.
* `Draft.SendsRanges` — the ranges on a name go to a field.
* `Draft.NamesPrices` — all steps of a draft name the prices in a currency by one field.
-/

namespace FacetedSearch

/-- The filter that the numbers of parts lead to, from the root of a tree down. -/
def Filter.part? (f : Filter) : List Nat → Option Filter
  | [] => some f
  | i :: path => f.children[i]?.bind (·.part? path)

namespace Draft

/-- The ranges on `name` go to `field`: in a compiled filter wherever they stand, and in facets. -/
structure SendsRanges (d : Draft) (name field : String) : Prop where
  filter : ∀ f path intervals, f.part? path = some (.range name intervals) →
    (d.compileFilter f).part? path = some (.range field intervals)
  facet : ∀ intervals, d.filterFacet? (.range name intervals) =
    some { id := field, field, counting := .buckets (intervals.map Aggregation.bucketOf) }

/-- With the code of a currency, padded or not, `field` is the name of its prices everywhere. -/
structure NamesPrices (d : Draft) (price code padded field : String) : Prop where
  /-- A code in the name counts, whatever the currency of the draft. -/
  explicit : ∀ currency, ({ d with currency } : Draft).SendsRanges (price ++ "." ++ code) field
  plain : (d.withCurrency padded).SendsRanges price field
  sorting : ∀ (expression : String) (n : Nat) (item : List Char),
    (SortField.items expression.toList)[n]? = some item → (SortField.ofItem item).field = price →
      ((d.withCurrency padded).sortBy expression).sorting[n]? =
        some { SortField.ofItem item with field }

end Draft

/-! ## Parts of compiled filters -/

/-- Each part is compiled where it stands. -/
theorem Filter.part?_compile {mapper : FieldMapper} {currency : Option String} {f g : Filter}
    {path : List Nat} (h : f.part? path = some g) :
    (f.compile mapper currency).part? path = some (g.compile mapper currency) := by
  induction path generalizing f with
  | nil =>
    obtain rfl : f = g := by simpa [part?] using h
    rfl
  | cons i path ih =>
    obtain ⟨c, hc, hpart⟩ := Option.bind_eq_some_iff.1 h
    have hcompiled : (f.compile mapper currency).children[i]? =
        some (c.compile mapper currency) := by
      cases f with
      | all cs | any cs =>
        have hc : cs[i]? = some c := hc
        simp [compile, children, hc]
      -- The parts of a choice that splitting makes are not on the path: a leaf has none.
      | term | wildcard | range | ids => simp [children] at hc
    rw [part?, hcompiled, Option.bind_some, ih hpart]

/-! ## Names -/

section

variable {price code pre post : String}

theorem FieldMapper.mapName_catalog_code (hprice : Text.same price "price" = true)
    (hcode : IsCurrencyCode code) : catalog.mapName (price ++ "." ++ code) = priceField code := by
  have hreplaced : MappingRule.price.replaced? (price ++ "." ++ code) = some (priceField code) :=
    MappingRule.replaced?_price_eq_some_iff.2 ⟨price, code, hprice, hcode, rfl, rfl⟩
  rw [mapName, rules_catalog, List.findSome?_cons, hreplaced]
  rfl

theorem rangeField_of_not_same {name : String} (h : Text.same name "price" = false)
    (currency : Option String) : rangeField currency name = name := by
  cases currency with
  | none => rfl
  | some code => rw [rangeField, h, if_neg (by simp)]

theorem rangeField_priceField (code : String) (currency : Option String) :
    rangeField currency (priceField code) = priceField code := by
  apply rangeField_of_not_same
  rw [← Bool.not_eq_true]
  intro h
  have hlength := Text.length_of_same h
  simp [priceField] at hlength

theorem Draft.nonBlank_padded (hcode : IsCurrencyCode code) (hpre : Text.blank pre = true)
    (hpost : Text.blank post = true) : nonBlank (pre ++ code ++ post) = some code := by
  have htrim : Text.trim (pre ++ code ++ post) = code :=
    Text.trim_padded hpre
      (fun c hc => isBlank_of_isCodeLetter (List.all_eq_true.1 hcode.2 c hc)) hpost
  have hblank : Text.blank (pre ++ code ++ post) = false := by
    rw [← Bool.not_eq_true, ← Text.trim_eq_empty_iff, htrim]
    rintro rfl
    exact absurd hcode (by decide)
  rw [nonBlank, htrim, hblank]
  rfl

theorem SortField.resolve_of_same_price {f : SortField} (h : Text.same f.field "price" = true)
    (code : String) : f.resolve (some code) = { f with field := priceField code } := by
  have hother : ∀ word : String, Text.same "price" word = false →
      Text.same f.field word = false := by
    intro word hword
    rw [← Bool.not_eq_true] at hword ⊢
    exact fun hsame => hword (Text.same_trans (by rwa [Text.same_comm]) hsame)
  rw [resolve, hother "name" (by decide), hother "title" (by decide), if_neg (by simp)]
  simp [h]

end

/-! ## Drafts -/

namespace Draft

variable {d : Draft} {price code pre post : String}

theorem sendsRanges_iff {name field : String} : d.SendsRanges name field ↔
    rangeField d.currency (d.mapper.mapName name) = field := by
  constructor
  · intro h
    have hfacet := Option.some.inj (h.facet [])
    exact congrArg Aggregation.field hfacet
  · rintro rfl
    constructor
    case filter =>
      intro f path intervals h
      rw [compileFilter, Filter.part?_compile h, Filter.compile]
    case facet => exact fun intervals => rfl

/-- Sorting replaces what is there when there is an item. -/
theorem getElem?_sorting_sortBy {expression : String} {n : Nat} {item : List Char}
    (h : (SortField.items expression.toList)[n]? = some item) :
    (d.sortBy expression).sorting[n]? = some ((SortField.ofItem item).resolve d.currency) := by
  have hitem : (SortField.ofExpression d.currency expression)[n]? =
      some ((SortField.ofItem item).resolve d.currency) := by
    rw [SortField.ofExpression, List.getElem?_map, h, Option.map_some]
  unfold sortBy
  split
  · simp_all
  · exact hitem

theorem namesPrices (hmapper : d.mapper = .catalog) (hprice : Text.same price "price" = true)
    (hcode : IsCurrencyCode code) (hpre : Text.blank pre = true)
    (hpost : Text.blank post = true) :
    d.NamesPrices price code (pre ++ code ++ post) (priceField code) := by
  have hcurrency : (d.withCurrency (pre ++ code ++ post)).currency = some code :=
    nonBlank_padded hcode hpre hpost
  constructor
  case explicit =>
    intro currency
    rw [sendsRanges_iff, hmapper, FieldMapper.mapName_catalog_code hprice hcode,
      rangeField_priceField]
  case plain =>
    -- No rule replaces the bare name, so the currency comes in.
    have hmapper : (d.withCurrency (pre ++ code ++ post)).mapper = .catalog := hmapper
    rw [sendsRanges_iff, hcurrency, hmapper,
      FieldMapper.mapName_eq_self (FieldMapper.replaced?_of_same_price hprice), rangeField,
      if_pos hprice]
  case sorting =>
    intro expression n item hitem hfield
    rw [getElem?_sorting_sortBy hitem, hcurrency,
      SortField.resolve_of_same_price (by rwa [hfield])]

/-- With the rules for catalogs, the prices in a currency have one name, however the code is
written, and every step arrives at it; ranges on names that are none of the prices and that no
rule replaces stay as they are. -/
theorem prices_named_alike (hmapper : d.mapper = .catalog)
    (hprice : Text.same price "price" = true) (hcode : IsCurrencyCode code)
    (hpre : Text.blank pre = true) (hpost : Text.blank post = true) :
    (∃ rule rest, d.mapper.rules = rule :: rest ∧
      ∀ s, (rule.replaced? (price ++ "." ++ s)).isSome = true ↔ IsCurrencyCode s) ∧
    d.NamesPrices price code (pre ++ code ++ post) ("price_" ++ Text.lowercase code) ∧
    ∀ name, (∀ rule ∈ d.mapper.rules, rule.replaced? name = none) →
      Text.same name "price" = false →
        ∀ currency, ({ d with currency } : Draft).SendsRanges name name := by
  refine ⟨⟨.price, _, by rw [hmapper, FieldMapper.rules_catalog], fun s => ?_⟩,
    namesPrices hmapper hprice hcode hpre hpost, fun name hname hother currency => ?_⟩
  · exact MappingRule.isSome_replaced?_price_iff hprice
  · rw [sendsRanges_iff, FieldMapper.mapName_eq_self hname, rangeField_of_not_same hother]

/-- A code with the long s and the Kelvin sign between other blanks than spaces. -/
theorem prices_named_alike_kelvin :
    let d : Draft := .ofMapper .catalog
    let e : Draft := d.withCurrency "\u2003ſ\u212aD\t "
    let cheap : List Interval := [.below "5"]
    let f : Filter := .all [.ids [], .any [.range "Price.ſ\u212aD" cheap, .range "Price" cheap]]
    (d.compileFilter f).part? [1, 0] = some (.range "price_ſkd" cheap) ∧
      (e.compileFilter f).part? [1, 1] = some (.range "price_ſkd" cheap) ∧
      (e.filterFacet? (.range "Price" cheap)).map (·.field) = some "price_ſkd" ∧
      (e.sortBy "code; Price desc").sorting[1]? = some ⟨"price_ſkd", true, none⟩ ∧
      (e.filterFacet? (.range "size" cheap)).map (·.field) = some "size" := by
  intro d e cheap f
  obtain ⟨-, hnames, hkept⟩ := @prices_named_alike d "Price" "ſ\u212aD" "\u2003" "\t " rfl
    (by decide) (by decide) (by decide) (by decide)
  have hlower : Text.lowercase "ſ\u212aD" = "ſkd" := by decide +kernel
  rw [hlower] at hnames
  refine ⟨(hnames.explicit none).filter f [1, 0] cheap rfl, hnames.plain.filter f [1, 1] cheap rfl,
    congrArg (Option.map _) (hnames.plain.facet cheap),
    hnames.sorting "code; Price desc" 1 "Price desc".toList (by decide +kernel) (by decide +kernel),
    ?_⟩
  have hsize := hkept "size" (by decide +kernel) (by decide) (some "ſ\u212aD")
  exact congrArg (Option.map _) (hsize.facet cheap)

end Draft

end FacetedSearch
