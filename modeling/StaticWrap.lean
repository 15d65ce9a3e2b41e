import StaticWrap.Main
import StaticWrap.Proofs.Check.InternalRule
import StaticWrap.Proofs.Discover.Accounting
import StaticWrap.Proofs.Discover.QualifierText
import StaticWrap.Proofs.Discover.Transparency
import StaticWrap.Proofs.Facts.Generations
import StaticWrap.Proofs.Facts.Grouping
import StaticWrap.Proofs.Generate.NameClaims
import StaticWrap.Proofs.Marker.Candidates
import StaticWrap.Proofs.Marker.Registration
import StaticWrap.Proofs.Marker.VisitingOrder
import StaticWrap.Proofs.Render.Spelling
import StaticWrap.Proofs.Run.Covering
import StaticWrap.Proofs.Run.Outcome
import StaticWrap.Proofs.Types.Writable
import StaticWrap.Proofs.Walk.Deprecation
import StaticWrap.Proofs.Walk.Placement
