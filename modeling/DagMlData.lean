import DagMlData.Lib.Guard
import DagMlData.Lib.Machine
import DagMlData.Lib.RustText
import DagMlData.Lib.RustMap
import DagMlData.Lib.Loading
import DagMlData.Lib.Separation
import DagMlData.Lib.Walk
import DagMlData.Lib.Framing
import DagMlData.Lib.StableOrder
import DagMlData.Error
import DagMlData.Ids
import DagMlData.Json
import DagMlData.Fingerprint
import DagMlData.Plan
import DagMlData.Coordinator
import DagMlData.Envelope
import DagMlData.Handle
import DagMlData.ViewSelection
import DagMlData.HandleRuns
import DagMlData.CohortSeparation
import DagMlData.Buffer
import DagMlData.BufferFile
import DagMlData.BufferWire
import DagMlData.BufferRoundTrip
import DagMlData.Relation
import DagMlData.RelationValid
import DagMlData.FoldLeakage
import DagMlData.Adapter
import DagMlData.AdapterSearch
import DagMlData.PathEnumeration
import DagMlData.PathPruning
import DagMlData.RelationSetValid
import DagMlData.ViewValidity
import DagMlData.FeatureTable
import DagMlData.FeatureValues
import DagMlData.ContentHash
import DagMlData.NdTensor
import DagMlData.ContentFingerprint
import DagMlData.Binding
import DagMlData.Provider
import DagMlData.ProviderRuns
import DagMlData.ProviderBindings
import DagMlData.ProviderProjections
import DagMlData.ProviderSeparation
import DagMlData.Alignment
import DagMlData.Fusion
import DagMlData.FusionCorrect
import DagMlData.Lib.Chain
import DagMlData.OriginChains
import DagMlData.FoldSetValid
import DagMlData.JsonEq
import DagMlData.BranchConstraints
import DagMlData.Lib.Tiling
import DagMlData.SourceLayout
import DagMlData.ProviderFusion
import DagMlData.PlanDependencies
import DagMlData.Lib.RowMajor
import DagMlData.Lib.Unchecked
import DagMlData.BorrowedTensor
import DagMlData.TensorCopy
import DagMlData.TensorPanics
import DagMlData.FeatureProjection
import DagMlData.Collation
import DagMlData.AlignmentPlans
import DagMlData.FusionInterleaving
import DagMlData.ArrowReader
import DagMlData.FittedAdapter
import DagMlData.Coordinates
import DagMlData.TargetValues
import DagMlData.TargetTables
import DagMlData.SampleTable
import DagMlData.ArrowExport
import DagMlData.FeatureIngestion
import DagMlData.TensorProjection
import DagMlData.CohortConstruction
import DagMlData.IdentityArrow
import DagMlData.JsonText
import DagMlData.JsonKeys
import DagMlData.JsonRecord
import DagMlData.Schema
import DagMlData.SchemaJson
import DagMlData.RelationJson
import DagMlData.CanonicalForms
import DagMlData.Planner
import DagMlData.PlannerSources
import DagMlData.PlannerWiring
import DagMlData.PlannerTraces
import DagMlData.PlannerCorrect
import DagMlData.Lib.Heap
import DagMlData.Lib.Release
import DagMlData.ArrowTables
import DagMlData.ArrowMemory
import DagMlData.FeatureCollation
import DagMlData.TypedProvider
import DagMlData.ErrorTaxonomy
import DagMlData.Lib.Refinement
import DagMlData.ProviderAbi
import DagMlData.Lib.Callbacks
import DagMlData.BufferFetcher
import DagMlData.Lib.Owned
import DagMlData.TensorMemory
import DagMlData.AttachedStore
import DagMlData.AttachedStoreRuns
import DagMlData.EnvelopeConstruction
import DagMlData.BufferManifests
import DagMlData.JsonFacade
