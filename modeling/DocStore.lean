import DocStore.Disk
import DocStore.Document
import DocStore.Double
import DocStore.Double.Reading
import DocStore.Double.Text
import DocStore.Hex
import DocStore.Ids
import DocStore.Insertion
import DocStore.Json
import DocStore.Json.Reading
import DocStore.Log
import DocStore.Options
import DocStore.Path
import DocStore.Pattern.CharTest
import DocStore.Pattern.Matcher
import DocStore.Pattern.Reader
import DocStore.Pattern.Syntax
import DocStore.Pattern.Token
import DocStore.Projection
import DocStore.Query
import DocStore.Query.Evaluation
import DocStore.Query.Reading
import DocStore.Sharing
import DocStore.Snapshot
import DocStore.Store
import DocStore.Table
import DocStore.Unicode.Case
import DocStore.Unicode.Identifier
import DocStore.Unicode.NameTable
import DocStore.Unicode.Names
import DocStore.Unicode.Printable
import DocStore.Unicode.Ranges
import DocStore.Unicode.Word
import DocStore.Update
import DocStore.Value
import DocStore.Value.Literal
import DocStore.Workspace
import DocStore.Proofs.LongIntegers
import DocStore.Proofs.JsonRoundTrip
import DocStore.Proofs.UpdateSteps
import DocStore.Proofs.SharedLists
import DocStore.Proofs.UpdateFrame
import DocStore.Proofs.StoreInvariant
import DocStore.Proofs.FileReplacement
import DocStore.Proofs.DistinctKeys
import DocStore.Proofs.SnapshotRoundTrip
import DocStore.Proofs.StoreSaves
import DocStore.Proofs.WorkspaceFiles
import DocStore.Proofs.Selection
import DocStore.Proofs.QueryRefusal
import DocStore.Proofs.DoubleRange
import DocStore.Proofs.QueryEvaluation
import DocStore.Proofs.UpdateCompletion
import DocStore.Proofs.StoreUpdates
import DocStore.Proofs.SelectionAlgebra
import DocStore.Proofs.GeneratedIds
import DocStore.Proofs.InsertedDocuments
import DocStore.Proofs.IdSearch
import DocStore.Proofs.Persistence
import DocStore.Proofs.KeyHistory
import DocStore.Proofs.StoreHistory
import DocStore.Proofs.SimultaneousUpdate
import DocStore.Proofs.OpenNames
import DocStore.Proofs.StoreNames
import DocStore.Proofs.StorePaths
import DocStore.Proofs.SaveAtomicity
import DocStore.Proofs.StoreRemoval
import DocStore.Proofs.UpdateSequence
import DocStore.Proofs.IndependentUpdates
import DocStore.Proofs.QueryReading
import DocStore.Proofs.ProjectedFields
import DocStore.Proofs.QueryFields
import DocStore.Proofs.QueryReordering
import DocStore.Proofs.ExactValues
import DocStore.Proofs.FieldEquality
import DocStore.Proofs.FieldOrder
import DocStore.Proofs.ProjectionGrammar
import DocStore.Proofs.StoreReads
import DocStore.Proofs.ComplementaryMasks
import DocStore.Proofs.Reinsertion
import DocStore.Proofs.SaveLimits
import DocStore.Proofs.NestedEquality
import DocStore.Proofs.FieldRenaming
import DocStore.Proofs.RepeatedUpdates
import DocStore.Proofs.UpdateReports
import DocStore.Proofs.WrittenFields
