import ConfigStack.Http.Client
import ConfigStack.Loading
import ConfigStack.OAuth2.Setup
import ConfigStack.Proofs.Presence
import ConfigStack.Proofs.Compositional
import ConfigStack.Proofs.Budget
import ConfigStack.Proofs.Configured
import ConfigStack.Proofs.OAuth2.Assembled
import ConfigStack.Proofs.OAuth2.DerivedValues
import ConfigStack.Proofs.Template
import ConfigStack.Proofs.Resolved
import ConfigStack.Proofs.OAuth2.DiscoveredEndpoints
import ConfigStack.Proofs.SelfExpansion
import ConfigStack.Proofs.OAuth2.VisibleResolves
import ConfigStack.Proofs.ExpansionTree
import ConfigStack.Proofs.Extension
import ConfigStack.Proofs.OAuth2.FetchOrFallback
import ConfigStack.Proofs.OAuth2.ResolvedVendor
import ConfigStack.Proofs.Seams
import ConfigStack.Proofs.OAuth2.Circular
import ConfigStack.Proofs.OAuth2.ScopeAnswer
import ConfigStack.Proofs.Sequencing
import ConfigStack.Proofs.Loaded
import ConfigStack.Proofs.OAuth2.Changes
import ConfigStack.Proofs.OAuth2.PublicClients
import ConfigStack.Proofs.OAuth2.LiveIssuer
import ConfigStack.Proofs.OAuth2.Rearrangement
import ConfigStack.Proofs.Reloading
import ConfigStack.Proofs.Evaluation
import ConfigStack.Proofs.Counter
import ConfigStack.Proofs.OAuth2.IssuerSpellings
import ConfigStack.Proofs.Grammar
import ConfigStack.Proofs.Flattening
import ConfigStack.Proofs.StringSet
import ConfigStack.Proofs.Splicing
import ConfigStack.Proofs.OAuth2.ListedScopes
import ConfigStack.Proofs.Oidc.DomainLabels
import ConfigStack.Proofs.Oidc.Documents
import ConfigStack.Proofs.Elements
import ConfigStack.Proofs.Optional
import ConfigStack.Proofs.Decimal.Digits
import ConfigStack.Proofs.Decimal.Rounding
import ConfigStack.Proofs.Decimal.Shortest
import ConfigStack.Proofs.Unsigned
