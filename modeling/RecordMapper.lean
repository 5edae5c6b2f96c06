import RecordMapper.Build
import RecordMapper.Call
import RecordMapper.Expansion
import RecordMapper.Proofs.AnsweredRequests
import RecordMapper.Proofs.BarePasses
import RecordMapper.Proofs.Builds
import RecordMapper.Proofs.Calls
import RecordMapper.Proofs.Consumption
import RecordMapper.Proofs.Contributions
import RecordMapper.Proofs.Correspondence
import RecordMapper.Proofs.DeclaredNames
import RecordMapper.Proofs.Emissions
import RecordMapper.Proofs.EvenPaths
import RecordMapper.Proofs.Extracted
import RecordMapper.Proofs.FileChanges
import RecordMapper.Proofs.FullNames
import RecordMapper.Proofs.InOrder
import RecordMapper.Proofs.IncludedFiles
import RecordMapper.Proofs.IndexLines
import RecordMapper.Proofs.InnerItems
import RecordMapper.Proofs.IsolatedFailures
import RecordMapper.Proofs.JsonText
import RecordMapper.Proofs.Located
import RecordMapper.Proofs.MapperNames
import RecordMapper.Proofs.Matching
import RecordMapper.Proofs.ModulePaths
import RecordMapper.Proofs.Outputs
import RecordMapper.Proofs.Parameters
import RecordMapper.Proofs.Placeless
import RecordMapper.Proofs.PlainTypes
import RecordMapper.Proofs.Planning
import RecordMapper.Proofs.QuotedTexts
import RecordMapper.Proofs.ReadBack
import RecordMapper.Proofs.ReadItems
import RecordMapper.Proofs.ReadTypes
import RecordMapper.Proofs.RelativePaths
import RecordMapper.Proofs.RemovedAttributes
import RecordMapper.Proofs.Reordering
import RecordMapper.Proofs.Requests
import RecordMapper.Proofs.RereadTypes
import RecordMapper.Proofs.Rerooting
import RecordMapper.Proofs.Respelling
import RecordMapper.Proofs.RetypedFields
import RecordMapper.Proofs.ScannedTexts
import RecordMapper.Proofs.ScannedTrees
import RecordMapper.Proofs.SchemaJson
import RecordMapper.Proofs.SecondBuild
import RecordMapper.Proofs.Segments
import RecordMapper.Proofs.Signatures
import RecordMapper.Proofs.SkippedDirectives
import RecordMapper.Proofs.SpelledPaths
import RecordMapper.Proofs.SplitHomes
import RecordMapper.Proofs.Synthesis
import RecordMapper.Proofs.TargetLists
import RecordMapper.Proofs.Twins
import RecordMapper.Proofs.TwoModes
import RecordMapper.Proofs.UniqueNames
import RecordMapper.Proofs.Unplaced
import RecordMapper.Proofs.UpperCase
import RecordMapper.Proofs.Words
import RecordMapper.Proofs.Workers
import RecordMapper.Proofs.WrittenNames
import RecordMapper.Samples
import RecordMapper.Schema.Json
