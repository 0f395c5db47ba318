import DefectGraph.Text.Utf8
import DefectGraph.Source.Reader
import DefectGraph.LongName
import DefectGraph.Graph.Extract
import DefectGraph.Graph.Component
import DefectGraph.Config
import DefectGraph.Main
import DefectGraph.Proofs.Tables
import DefectGraph.Proofs.BinaryNames
import DefectGraph.Proofs.Connectivity
import DefectGraph.Proofs.BugRecords
import DefectGraph.Proofs.TaskIsolation
import DefectGraph.Proofs.Arena
import DefectGraph.Proofs.Descriptors
import DefectGraph.Proofs.DepthFirst
import DefectGraph.Proofs.NamedPaths
import DefectGraph.Proofs.Prediction
import DefectGraph.Proofs.DescriptorFaults
import DefectGraph.Proofs.ParameterTypes
import DefectGraph.Proofs.SeedCounts
import DefectGraph.Proofs.GroupOrder
import DefectGraph.Proofs.Resolution
import DefectGraph.Proofs.EnclosedReferences
import DefectGraph.Proofs.ConstructorChains
import DefectGraph.Proofs.TaskGroups
import DefectGraph.Proofs.MaterialisedRows
import DefectGraph.Proofs.MarkerLayers
import DefectGraph.Proofs.TypeSpellings
