import SourceAtlas.Main
import SourceAtlas.Proofs.AnalysisRuns
import SourceAtlas.Proofs.CallLinks
import SourceAtlas.Proofs.CallOrder
import SourceAtlas.Proofs.Comments
import SourceAtlas.Proofs.Containment
import SourceAtlas.Proofs.Counts
import SourceAtlas.Proofs.EntryPoints
import SourceAtlas.Proofs.ErrorSearch
import SourceAtlas.Proofs.JsonText
import SourceAtlas.Proofs.LinkEnds
import SourceAtlas.Proofs.ListingOrder
import SourceAtlas.Proofs.LostCalls
import SourceAtlas.Proofs.ModuleImports
import SourceAtlas.Proofs.ModuleKeyword
import SourceAtlas.Proofs.ModuleLabel
import SourceAtlas.Proofs.Sessions
import SourceAtlas.Proofs.SettingsFiles
import SourceAtlas.Proofs.TypeLinks
import SourceAtlas.Proofs.TypeResolution
import SourceAtlas.Proofs.YamlText
import SourceAtlas.Session
import SourceAtlas.Symbol.Check
