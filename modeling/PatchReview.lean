import PatchReview.Main
import PatchReview.Recording.Timeless
import PatchReview.Proofs.Patch.AddedRows
import PatchReview.Proofs.Text.Lines
import PatchReview.Proofs.Assoc
import PatchReview.Proofs.Patch.PositionLookup
import PatchReview.Proofs.Json.Access
import PatchReview.Proofs.Linter.Reports
import PatchReview.Proofs.Review.Violations
import PatchReview.Proofs.Pull.Calls
import PatchReview.Proofs.Review.Anchoring
import PatchReview.Proofs.Review.Additions
import PatchReview.Proofs.Pull.AnchoredRuns
import PatchReview.Proofs.Patch.Rendering
import PatchReview.Proofs.Config.Failures
import PatchReview.Proofs.Settings.Updates
import PatchReview.Proofs.Hosting.Replies
import PatchReview.Proofs.Linter.Reviews
import PatchReview.Proofs.Review.Storage
import PatchReview.Proofs.Pull.Plans
import PatchReview.Proofs.Pull.Histories
import PatchReview.Proofs.Pull.Steadiness
import PatchReview.Proofs.Pull.Independence
import PatchReview.Proofs.Schema.Responses
import PatchReview.Proofs.Service.Answers
import PatchReview.Proofs.Patch.Stretches
import PatchReview.Proofs.Patch.Likeness
import PatchReview.Proofs.Template.Layout
import PatchReview.Proofs.Service.RoutesAgree
import PatchReview.Proofs.Config.Merging
import PatchReview.Proofs.Template.Stripping
import PatchReview.Proofs.Template.Tails
import PatchReview.Proofs.Config.Lookups
import PatchReview.Proofs.Json.Reading
import PatchReview.Proofs.Json.Stops
import PatchReview.Proofs.Linter.Configurations
import PatchReview.Proofs.Linter.EngineRuns
import PatchReview.Proofs.Linter.Conclusions
import PatchReview.Proofs.Hosting.Traffic
import PatchReview.Proofs.Hosting.Limits
import PatchReview.Proofs.Hosting.Listings
import PatchReview.Proofs.Config.Sections
import PatchReview.Proofs.Encoding.Utf8
import PatchReview.Proofs.Encoding.Base64
import PatchReview.Proofs.Hosting.Contents
import PatchReview.Proofs.Pull.Inquiries
import PatchReview.Proofs.Pull.SkippedFiles
import PatchReview.Proofs.Config.Fetches
import PatchReview.Proofs.Yaml.Documents
import PatchReview.Proofs.Config.Origins
import PatchReview.Proofs.Settings.Fields
import PatchReview.Proofs.Schema.Admission
import PatchReview.Proofs.Service.Rejections
