import ScriptAssist.Main
import ScriptAssist.Proofs.Completion.Domains
import ScriptAssist.Proofs.Completion.Labels
import ScriptAssist.Proofs.Rpc.RoundTrip
import ScriptAssist.Proofs.Server.Addresses
import ScriptAssist.Proofs.Server.Calls
import ScriptAssist.Proofs.Server.CleanExit
import ScriptAssist.Proofs.Server.Initiative
import ScriptAssist.Proofs.Server.Items
import ScriptAssist.Proofs.Server.Refusals
import ScriptAssist.Proofs.Server.ShortWrites
import ScriptAssist.Proofs.Server.Store
import ScriptAssist.Proofs.Snippet.RoundTrip
import ScriptAssist.Proofs.Text.Places
import ScriptAssist.Proofs.Text.Slices
import ScriptAssist.Proofs.Server.Saturation
import ScriptAssist.Proofs.Completion.Inquiries
import ScriptAssist.Proofs.Snippet.Matches
import ScriptAssist.Proofs.Snippet.Stretches
import ScriptAssist.Proofs.Snippet.Unread
import ScriptAssist.Proofs.Symbols.FirstFlaw
import ScriptAssist.Proofs.Symbols.Sources
import ScriptAssist.Proofs.Trigger.History
import ScriptAssist.Proofs.Rpc.LaterBytes
import ScriptAssist.Proofs.Rpc.RefusedLines
import ScriptAssist.Proofs.Completion.Dialects
import ScriptAssist.Proofs.Completion.RuleOrder
import ScriptAssist.Proofs.Server.RefusedHeaders
import ScriptAssist.Proofs.Trigger.Reports
import ScriptAssist.Proofs.Text.Boundaries
import ScriptAssist.Proofs.Settings.Loaders
import ScriptAssist.Proofs.Rpc.Shapes
