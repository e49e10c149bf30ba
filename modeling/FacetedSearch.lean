import FacetedSearch.Encoding.Config
import FacetedSearch.Encoding.Response
import FacetedSearch.Json.Reader
import FacetedSearch.Json.Writer
import FacetedSearch.Proofs.CompiledRequest
import FacetedSearch.Proofs.FacetIsolation
import FacetedSearch.Proofs.FilterMeaning
import FacetedSearch.Proofs.Sessions
import FacetedSearch.Proofs.MarkedFacets
import FacetedSearch.Proofs.DefaultTerms
import FacetedSearch.Proofs.SearchRuns
import FacetedSearch.Proofs.QueryParts
import FacetedSearch.Proofs.RoundTrips
import FacetedSearch.Proofs.PriceNames
import FacetedSearch.Pattern.Spelling
import FacetedSearch.Proofs.MappedAgain
import FacetedSearch.Proofs.IdLookups
import FacetedSearch.Proofs.RequestedFacets
import FacetedSearch.Proofs.AnsweredFacets
import FacetedSearch.Proofs.ReorderedAnswers
import FacetedSearch.Proofs.WrittenTerms
import FacetedSearch.Proofs.CatalogTable
import FacetedSearch.Proofs.LegibleFilters
import FacetedSearch.Proofs.NormalFilters
import FacetedSearch.Proofs.WrittenIntervals
import FacetedSearch.Proofs.NewTerms
import FacetedSearch.Proofs.SortedColumns
import FacetedSearch.Proofs.NameBeginnings
import FacetedSearch.Proofs.ItemParentheses
